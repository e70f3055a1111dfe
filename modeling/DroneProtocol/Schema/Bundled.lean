import DroneProtocol.Schema.Load

/-! # The bundled schema

The features every device speaks: `common` (id 0), `ardrone3` (id 1) and
`generic` (id 149), as the three schema files that ship with the library.
Their table is the default one for messages that name no schema.
-/

namespace DroneProtocol.Schema

/-- The schema file `ardrone3.yaml`. -/
def ardrone3Text : String :=
  "name: ardrone3\n" ++
  "id: 1\n" ++
  "description: Piloting and state of multirotor drones.\n" ++
  "\n" ++
  "enums:\n" ++
  "  - name: FlyingState\n" ++
  "    values:\n" ++
  "      - \x7bname: landed, value: 0\x7d\n" ++
  "      - \x7bname: takingoff, value: 1\x7d\n" ++
  "      - \x7bname: hovering, value: 2\x7d\n" ++
  "      - \x7bname: flying, value: 3\x7d\n" ++
  "      - \x7bname: landing, value: 4\x7d\n" ++
  "      - \x7bname: emergency, value: 5\x7d\n" ++
  "      - \x7bname: usertakeoff, value: 6\x7d\n" ++
  "      - \x7bname: motor_ramping, value: 7\x7d\n" ++
  "      - \x7bname: emergency_landing, value: 8\x7d\n" ++
  "\n" ++
  "  - name: AlertState\n" ++
  "    values:\n" ++
  "      - \x7bname: none, value: 0\x7d\n" ++
  "      - \x7bname: user, value: 1\x7d\n" ++
  "      - \x7bname: cut_out, value: 2\x7d\n" ++
  "      - \x7bname: critical_battery, value: 3\x7d\n" ++
  "      - \x7bname: low_battery, value: 4\x7d\n" ++
  "      - \x7bname: too_much_angle, value: 5\x7d\n" ++
  "\n" ++
  "classes:\n" ++
  "  - name: Piloting\n" ++
  "    id: 0\n" ++
  "    commands:\n" ++
  "      - name: FlatTrim\n" ++
  "        id: 0\n" ++
  "      - name: TakeOff\n" ++
  "        id: 1\n" ++
  "      - name: PCMD\n" ++
  "        id: 2\n" ++
  "        buffer: non_ack\n" ++
  "        description: Piloting command, sent periodically.\n" ++
  "        args:\n" ++
  "          - \x7bname: flag, type: u8, description: 1 to apply roll and pitch.\x7d\n" ++
  "          - \x7bname: roll, type: i8\x7d\n" ++
  "          - \x7bname: pitch, type: i8\x7d\n" ++
  "          - \x7bname: yaw, type: i8\x7d\n" ++
  "          - \x7bname: gaz, type: i8\x7d\n" ++
  "          - \x7bname: timestampAndSeqNum, type: u32\x7d\n" ++
  "      - name: Landing\n" ++
  "        id: 3\n" ++
  "      - name: Emergency\n" ++
  "        id: 4\n" ++
  "        buffer: high_prio\n" ++
  "        timeout: retry\n" ++
  "      - name: NavigateHome\n" ++
  "        id: 5\n" ++
  "        args:\n" ++
  "          - \x7bname: start, type: u8\x7d\n" ++
  "      - name: moveBy\n" ++
  "        id: 7\n" ++
  "        args:\n" ++
  "          - \x7bname: dX, type: float\x7d\n" ++
  "          - \x7bname: dY, type: float\x7d\n" ++
  "          - \x7bname: dZ, type: float\x7d\n" ++
  "          - \x7bname: dPsi, type: float\x7d\n" ++
  "\n" ++
  "  - name: PilotingSettings\n" ++
  "    id: 2\n" ++
  "    commands:\n" ++
  "      - name: MaxAltitude\n" ++
  "        id: 0\n" ++
  "        args:\n" ++
  "          - \x7bname: current, type: float, description: Altitude in meters.\x7d\n" ++
  "      - name: MaxTilt\n" ++
  "        id: 1\n" ++
  "        args:\n" ++
  "          - \x7bname: current, type: float, description: Tilt in degrees.\x7d\n" ++
  "\n" ++
  "  - name: PilotingState\n" ++
  "    id: 4\n" ++
  "    commands:\n" ++
  "      - name: FlatTrimChanged\n" ++
  "        id: 0\n" ++
  "      - name: FlyingStateChanged\n" ++
  "        id: 1\n" ++
  "        args:\n" ++
  "          - \x7bname: state, type: enum, enum: FlyingState\x7d\n" ++
  "      - name: AlertStateChanged\n" ++
  "        id: 2\n" ++
  "        args:\n" ++
  "          - \x7bname: state, type: enum, enum: AlertState\x7d\n" ++
  "      - name: PositionChanged\n" ++
  "        id: 4\n" ++
  "        buffer: non_ack\n" ++
  "        args:\n" ++
  "          - \x7bname: latitude, type: double\x7d\n" ++
  "          - \x7bname: longitude, type: double\x7d\n" ++
  "          - \x7bname: altitude, type: double\x7d\n" ++
  "      - name: SpeedChanged\n" ++
  "        id: 5\n" ++
  "        buffer: non_ack\n" ++
  "        args:\n" ++
  "          - \x7bname: speedX, type: float\x7d\n" ++
  "          - \x7bname: speedY, type: float\x7d\n" ++
  "          - \x7bname: speedZ, type: float\x7d\n" ++
  "      - name: AttitudeChanged\n" ++
  "        id: 6\n" ++
  "        buffer: non_ack\n" ++
  "        args:\n" ++
  "          - \x7bname: roll, type: float\x7d\n" ++
  "          - \x7bname: pitch, type: float\x7d\n" ++
  "          - \x7bname: yaw, type: float\x7d\n" ++
  "      - name: AltitudeChanged\n" ++
  "        id: 8\n" ++
  "        buffer: non_ack\n" ++
  "        args:\n" ++
  "          - \x7bname: altitude, type: double\x7d\n" ++
  "\n" ++
  "  - name: PilotingSettingsState\n" ++
  "    id: 6\n" ++
  "    commands:\n" ++
  "      - name: MaxAltitudeChanged\n" ++
  "        id: 0\n" ++
  "        args:\n" ++
  "          - \x7bname: current, type: float\x7d\n" ++
  "          - \x7bname: min, type: float\x7d\n" ++
  "          - \x7bname: max, type: float\x7d\n" ++
  "      - name: MaxTiltChanged\n" ++
  "        id: 1\n" ++
  "        args:\n" ++
  "          - \x7bname: current, type: float\x7d\n" ++
  "          - \x7bname: min, type: float\x7d\n" ++
  "          - \x7bname: max, type: float\x7d\n"

/-- The schema file `common.yaml`. -/
def commonText : String :=
  "name: common\n" ++
  "id: 0\n" ++
  "description: Commands shared by every product.\n" ++
  "\n" ++
  "enums:\n" ++
  "  - name: SensorName\n" ++
  "    description: Sensor reported by SensorsStatesListChanged.\n" ++
  "    values:\n" ++
  "      - \x7bname: IMU, value: 0\x7d\n" ++
  "      - \x7bname: barometer, value: 1\x7d\n" ++
  "      - \x7bname: ultrasound, value: 2\x7d\n" ++
  "      - \x7bname: GPS, value: 3\x7d\n" ++
  "      - \x7bname: magnetometer, value: 4\x7d\n" ++
  "      - \x7bname: vertical_camera, value: 5\x7d\n" ++
  "\n" ++
  "classes:\n" ++
  "  - name: Network\n" ++
  "    id: 0\n" ++
  "    commands:\n" ++
  "      - name: Disconnect\n" ++
  "        id: 0\n" ++
  "        description: Signals that the peer is about to disconnect.\n" ++
  "\n" ++
  "  - name: Settings\n" ++
  "    id: 2\n" ++
  "    commands:\n" ++
  "      - name: AllSettings\n" ++
  "        id: 0\n" ++
  "        description: Asks for all settings. The answer ends with AllSettingsChanged.\n" ++
  "      - name: Reset\n" ++
  "        id: 1\n" ++
  "      - name: ProductName\n" ++
  "        id: 2\n" ++
  "        args:\n" ++
  "          - \x7bname: name, type: string\x7d\n" ++
  "      - name: Country\n" ++
  "        id: 3\n" ++
  "        args:\n" ++
  "          - \x7bname: code, type: string, description: ISO 3166-1 alpha-2 code.\x7d\n" ++
  "\n" ++
  "  - name: SettingsState\n" ++
  "    id: 3\n" ++
  "    commands:\n" ++
  "      - name: AllSettingsChanged\n" ++
  "        id: 0\n" ++
  "      - name: ResetChanged\n" ++
  "        id: 1\n" ++
  "      - name: ProductNameChanged\n" ++
  "        id: 2\n" ++
  "        args:\n" ++
  "          - \x7bname: name, type: string\x7d\n" ++
  "      - name: ProductVersionChanged\n" ++
  "        id: 3\n" ++
  "        args:\n" ++
  "          - \x7bname: software, type: string\x7d\n" ++
  "          - \x7bname: hardware, type: string\x7d\n" ++
  "\n" ++
  "  - name: Common\n" ++
  "    id: 4\n" ++
  "    commands:\n" ++
  "      - name: AllStates\n" ++
  "        id: 0\n" ++
  "        description: Asks for all states. The answer ends with AllStatesChanged.\n" ++
  "      - name: CurrentDateTime\n" ++
  "        id: 4\n" ++
  "        args:\n" ++
  "          - \x7bname: datetime, type: string, description: ISO 8601 date and time.\x7d\n" ++
  "      - name: Reboot\n" ++
  "        id: 3\n" ++
  "\n" ++
  "  - name: CommonState\n" ++
  "    id: 5\n" ++
  "    commands:\n" ++
  "      - name: AllStatesChanged\n" ++
  "        id: 0\n" ++
  "      - name: BatteryStateChanged\n" ++
  "        id: 1\n" ++
  "        buffer: non_ack\n" ++
  "        args:\n" ++
  "          - \x7bname: percent, type: u8\x7d\n" ++
  "      - name: WifiSignalChanged\n" ++
  "        id: 7\n" ++
  "        buffer: non_ack\n" ++
  "        args:\n" ++
  "          - \x7bname: rssi, type: i16, description: Signal strength in dBm.\x7d\n" ++
  "      - name: SensorsStatesListChanged\n" ++
  "        id: 8\n" ++
  "        list: map_item\n" ++
  "        args:\n" ++
  "          - \x7bname: sensorName, type: enum, enum: SensorName\x7d\n" ++
  "          - \x7bname: sensorState, type: u8\x7d\n" ++
  "          - \x7bname: list_flags, type: bitfield, enum: generic.ListFlags, base: u8\x7d\n" ++
  "      - name: BootId\n" ++
  "        id: 16\n" ++
  "        args:\n" ++
  "          - \x7bname: bootId, type: string\x7d\n"

/-- The schema file `generic.yaml`. -/
def genericText : String :=
  "name: generic\n" ++
  "id: 149\n" ++
  "description: Product independent commands.\n" ++
  "\n" ++
  "enums:\n" ++
  "  - name: ListFlags\n" ++
  "    description: Flags of list and map item commands. Values are bit indexes.\n" ++
  "    values:\n" ++
  "      - \x7bname: First, value: 0\x7d\n" ++
  "      - \x7bname: Last, value: 1\x7d\n" ++
  "      - \x7bname: Empty, value: 2\x7d\n" ++
  "      - \x7bname: Remove, value: 3\x7d\n" ++
  "\n" ++
  "commands:\n" ++
  "  - name: Default\n" ++
  "    id: 0\n" ++
  "    description: Placeholder, never sent.\n" ++
  "  - name: SetDroneSettings\n" ++
  "    id: 1\n" ++
  "    args:\n" ++
  "      - \x7bname: settings, type: multiset, multiset: drone_settings\x7d\n" ++
  "  - name: DroneSettingsChanged\n" ++
  "    id: 2\n" ++
  "    args:\n" ++
  "      - \x7bname: settings, type: multiset, multiset: drone_settings_changed\x7d\n" ++
  "  - name: CustomCmd\n" ++
  "    id: 3\n" ++
  "    args:\n" ++
  "      - \x7bname: service_id, type: u16\x7d\n" ++
  "      - \x7bname: msg_num, type: u16\x7d\n" ++
  "      - \x7bname: payload, type: binary\x7d\n" ++
  "  - name: CustomCmdNonAck\n" ++
  "    id: 4\n" ++
  "    buffer: non_ack\n" ++
  "    args:\n" ++
  "      - \x7bname: service_id, type: u16\x7d\n" ++
  "      - \x7bname: msg_num, type: u16\x7d\n" ++
  "      - \x7bname: payload, type: binary\x7d\n" ++
  "\n" ++
  "multisets:\n" ++
  "  - name: drone_settings\n" ++
  "    description: Piloting settings applied in one command.\n" ++
  "    members:\n" ++
  "      - ardrone3.PilotingSettings.MaxAltitude\n" ++
  "      - ardrone3.PilotingSettings.MaxTilt\n" ++
  "  - name: drone_settings_changed\n" ++
  "    members:\n" ++
  "      - ardrone3.PilotingSettingsState.MaxAltitudeChanged\n" ++
  "      - ardrone3.PilotingSettingsState.MaxTiltChanged\n"

def bundledFiles : List SchemaFile :=
  [⟨"ardrone3.yaml", .ok ardrone3Text⟩,
   ⟨"common.yaml", .ok commonText⟩,
   ⟨"generic.yaml", .ok genericText⟩]

def bundledFeatures : Except SchemaError (List FeatureDef) :=
  loadFiles bundledFiles "file system" id

/-- The bundled schema, compiled. -/
def bundled : Except SchemaError Compiled := do
  compile (← bundledFeatures)

end DroneProtocol.Schema
