/- module: Polling/WritePlatforms
   source: custom_components/marstek_ble/button.py, switch.py, select.py
   digest: The entities that send commands, and the command each of their actions sends. -/

import MarstekBle.Device.State
import MarstekBle.Polling.Coordinator

set_option autoImplicit false
set_option relaxedAutoImplicit false

namespace MarstekBle.Polling

open MarstekBle.Data MarstekBle.Device

def cmdEpsMode : Byte := 0x05
def cmdAcInput : Byte := 0x06
def cmdGenerator : Byte := 0x07
def cmdBuzzer : Byte := 0x09
def cmdWorkMode : Byte := 0x09
def cmdChargeMode : Byte := 0x0D
def cmdAutoMode : Byte := 0x0E
def cmdOutputControl : Byte := 0x0E
def cmdPowerMode : Byte := 0x15
def cmdAcPower : Byte := 0x16
def cmdTotalPower : Byte := 0x17
def cmdCtPollingRateWrite : Byte := 0x20
def cmdReboot : Byte := 0x25

structure MarstekButton where
  key : String
  command : Byte
  payload : Bytes

structure MarstekSwitch where
  key : String
  command : Byte

/-- Both kinds of selects: the call each option makes. -/
structure MarstekSelect where
  key : String
  options : List (String × Call)

def buttons : List MarstekButton := [
  ⟨"reboot", cmdReboot, []⟩,
  ⟨"set_800w_mode", cmdPowerMode, [0x20, 0x03]⟩,
  ⟨"set_2500w_mode", cmdPowerMode, [0xC4, 0x09]⟩,
  ⟨"set_ac_power_2500w", cmdAcPower, [0xC4, 0x09]⟩,
  ⟨"set_total_power_2500w", cmdTotalPower, [0xC4, 0x09]⟩]

def switches : List MarstekSwitch := [
  ⟨"out1_control", cmdOutputControl⟩,
  ⟨"eps_mode", cmdEpsMode⟩,
  ⟨"ac_input", cmdAcInput⟩,
  ⟨"generator", cmdGenerator⟩,
  ⟨"buzzer", cmdBuzzer⟩]

/-- `MarstekOperatingModeSelect`, whose options have commands of their own. -/
def operatingModeSelect : MarstekSelect := ⟨"operating_mode", [
  ("Self-Consumption", { command := cmdAutoMode, payload := [0x01] }),
  ("Manual", { command := cmdWorkMode, payload := [0x01] })]⟩

/-- `MarstekSelect`, whose options are payloads of one command. -/
def payloadSelect (key : String) (command : Byte) (payloads : List (String × Bytes)) :
    MarstekSelect :=
  ⟨key, payloads.map fun option => (option.1, { command, payload := option.2 })⟩

def selects : List MarstekSelect := [
  operatingModeSelect,
  payloadSelect "charge_mode" cmdChargeMode [
    ("Load First", [0x01]),
    ("PV2 Passthrough", [0x00]),
    ("Simultaneous Charge Discharge", [0x02])],
  payloadSelect "ct_polling_rate_select" cmdCtPollingRateWrite [
    ("Fastest (0)", [0x00]),
    ("Medium (1)", [0x01]),
    ("Slowest (2)", [0x02])]]

/-- An action on an entity, which is known by its key. -/
inductive WriteAction where
  | press (key : String)
  | turnOn (key : String)
  | turnOff (key : String)
  | selectOption (key : String) (option : String)

namespace WriteAction

/-- The platform whose entities take the action. -/
def platform : WriteAction → Platform
  | press _ => .button
  | turnOn _ => .switch
  | turnOff _ => .switch
  | selectOption _ _ => .select

/-- The `send_command` call the action makes; none for an unknown key or option. -/
def call : WriteAction → Option Call
  | press key => (buttons.find? (·.key = key)).map fun button =>
      { command := button.command, payload := button.payload }
  | turnOn key => (switches.find? (·.key = key)).map fun switch =>
      { command := switch.command, payload := [0x01] }
  | turnOff key => (switches.find? (·.key = key)).map fun switch =>
      { command := switch.command, payload := [0x00] }
  | selectOption key option => (selects.find? (·.key = key)).bind fun select =>
      select.options.lookup option

end WriteAction

end MarstekBle.Polling
