/- module: Product/Registry
   source: custom_components/marstek_ble/products/__init__.py
   digest: The enabled products, by id and by Bluetooth name. -/

import MarstekBle.Product.Jupiter
import MarstekBle.Product.Venus

set_option autoImplicit false
set_option relaxedAutoImplicit false

namespace MarstekBle.Product

open MarstekBle.Data

/-- `RUNTIME_PRODUCTS`. -/
def runtimeProducts : List ProductRuntime := [Venus.venusRuntime, Jupiter.jupiterRuntime]

def runtimeForId (productId : String) : Option ProductRuntime :=
  runtimeProducts.find? fun runtime => runtime.profile.productId = productId

def runtimeForName (localName : Option Text) : Option ProductRuntime :=
  runtimeProducts.find? fun runtime => runtime.matchesName localName

end MarstekBle.Product
