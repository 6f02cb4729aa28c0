import WeatherStation.I2c
import Mathlib.Data.Rat.Floor

/-! Bosch_BME280.c, Bosch_BME280_selftest.c and i2c_BME280.c, built with
BME280_FLOAT_ENABLE; doubles are exact rationals. -/
namespace WeatherStation.Bme280
open Gpio I2c

def ok : Int := 0
def eNullPtr : Int := -1
def eDevNotFound : Int := -2
def eInvalidLen : Int := -3
def eCommFail : Int := -4
def wInvalidOsrMacro : Int := 1
def wSelfTestFail : Int := 2

def bme280Addr : UInt8 := 0x77
def chipIdValue : UInt8 := 0x60
def chipIdAddr : UInt8 := 0xD0
def resetAddr : UInt8 := 0xE0
def tempPressCalibDataAddr : UInt8 := 0x88
def humidityCalibDataAddr : UInt8 := 0xE1
def pwrCtrlAddr : UInt8 := 0xF4
def ctrlHumAddr : UInt8 := 0xF2
def ctrlMeasAddr : UInt8 := 0xF4
def configAddr : UInt8 := 0xF5
def dataAddr : UInt8 := 0xF7
def crcDataAddr : UInt8 := 0xE8

def sleepMode : UInt8 := 0x00
def forcedMode : UInt8 := 0x01

def osrPressSel : UInt8 := 1
def osrTempSel : UInt8 := 2
def osrHumSel : UInt8 := 4
def filterSel : UInt8 := 8
def standbySel : UInt8 := 16
def allSettingsSel : UInt8 := 0x1F
def oversamplingSettings : UInt8 := 0x07
def filterStandbySettings : UInt8 := 0x18

def press : UInt8 := 1
def temp : UInt8 := 2
def hum : UInt8 := 4
def all : UInt8 := 7

/-- A mask with the position of its lowest bit, `bitname##_MSK` and `_POS`. -/
structure Bits where
  msk : UInt8
  pos : UInt8

def sensorMode : Bits := ⟨0x03, 0⟩
def ctrlHum : Bits := ⟨0x07, 0⟩
def ctrlPress : Bits := ⟨0x1C, 2⟩
def ctrlTemp : Bits := ⟨0xE0, 5⟩
def filter : Bits := ⟨0x1C, 2⟩
def standby : Bits := ⟨0xE0, 5⟩

def setBits (regData : UInt8) (bits : Bits) (data : UInt8) : UInt8 :=
  (regData &&& ~~~bits.msk) ||| ((data <<< bits.pos) &&& bits.msk)

def getBits (regData : UInt8) (bits : Bits) : UInt8 :=
  (regData &&& bits.msk) >>> bits.pos

def concatBytes (msb lsb : UInt8) : UInt16 := (msb.toUInt16 <<< 8) ||| lsb.toUInt16

structure CalibData where
  digT1 : UInt16 := 0
  digT2 : Int16 := 0
  digT3 : Int16 := 0
  digP1 : UInt16 := 0
  digP2 : Int16 := 0
  digP3 : Int16 := 0
  digP4 : Int16 := 0
  digP5 : Int16 := 0
  digP6 : Int16 := 0
  digP7 : Int16 := 0
  digP8 : Int16 := 0
  digP9 : Int16 := 0
  digH1 : UInt8 := 0
  digH2 : Int16 := 0
  digH3 : UInt8 := 0
  digH4 : Int16 := 0
  digH5 : Int16 := 0
  digH6 : Int8 := 0
  tFine : Int32 := 0
  deriving DecidableEq

structure Data where
  temperature : ℚ
  humidity : ℚ
  pressure : ℚ
  deriving DecidableEq

structure UncompData where
  pressure : UInt32
  temperature : UInt32
  humidity : UInt32

structure Settings where
  osrP : UInt8 := 0
  osrT : UInt8 := 0
  osrH : UInt8 := 0
  filter : UInt8 := 0
  standbyTime : UInt8 := 0
  deriving DecidableEq

/-- `struct bme280_dev`.  `hasCallbacks` says that `read`, `write` and
`delay_ms` are set; they are always the functions of i2c_BME280.c, and `intf`
is always the I2C interface. -/
structure Dev where
  chipId : UInt8 := 0
  devId : UInt8 := 0
  hasCallbacks : Bool := false
  calibData : CalibData := {}
  settings : Settings := {}
  deriving DecidableEq

structure Device where
  bus : RtDevice
  i2cAddr : UInt8
  dev : Dev
  deriving DecidableEq

def nullPtrCheck (dev : Dev) : Int := if dev.hasCallbacks then ok else eNullPtr

def areSettingsChanged (subSettings desiredSettings : UInt8) : Bool :=
  subSettings &&& desiredSettings ≠ 0

def parseDeviceSettings (regData : List UInt8) : Settings where
  osrH := getBits (regData.getD 0 0) ctrlHum
  osrP := getBits (regData.getD 2 0) ctrlPress
  osrT := getBits (regData.getD 2 0) ctrlTemp
  filter := getBits (regData.getD 3 0) filter
  standbyTime := getBits (regData.getD 3 0) standby

def parseSensorData (regData : List UInt8) : UncompData :=
  let byte i := (regData.getD i 0).toUInt32
  { pressure := byte 0 <<< 12 ||| byte 1 <<< 4 ||| byte 2 >>> 4
    temperature := byte 3 <<< 12 ||| byte 4 <<< 4 ||| byte 5 >>> 4
    humidity := byte 7 ||| byte 6 <<< 8 }

def parseTempPressCalibData (regData : List UInt8) (calibData : CalibData) : CalibData :=
  let word i := concatBytes (regData.getD (i + 1) 0) (regData.getD i 0)
  { calibData with
    digT1 := word 0
    digT2 := (word 2).toInt16
    digT3 := (word 4).toInt16
    digP1 := word 6
    digP2 := (word 8).toInt16
    digP3 := (word 10).toInt16
    digP4 := (word 12).toInt16
    digP5 := (word 14).toInt16
    digP6 := (word 16).toInt16
    digP7 := (word 18).toInt16
    digP8 := (word 20).toInt16
    digP9 := (word 22).toInt16
    digH1 := regData.getD 25 0 }

def parseHumidityCalibData (regData : List UInt8) (calibData : CalibData) : CalibData :=
  let byte i := regData.getD i 0
  { calibData with
    digH2 := (concatBytes (byte 1) (byte 0)).toInt16
    digH3 := byte 2
    digH4 := ((byte 3).toInt8.toInt16 * (16 : Int16)) ||| (byte 4 &&& 0x0F).toUInt16.toInt16
    digH5 := ((byte 5).toInt8.toInt16 * (16 : Int16)) ||| (byte 4 >>> 4).toUInt16.toInt16
    digH6 := (byte 6).toInt8 }

/-- Conversion of a double to `int32_t` drops the fraction. -/
def truncate (value : ℚ) : Int32 := Int32.ofInt (value.num.tdiv value.den)

def clamp (low high value : ℚ) : ℚ :=
  if value < low then low else if value > high then high else value

/-- The compensated temperature, and the calibration data with `t_fine` set. -/
def compensateTemperature (uncomp : UncompData) (calib : CalibData) : ℚ × CalibData :=
  let t1 : ℚ := calib.digT1.toNat
  let raw : ℚ := uncomp.temperature.toNat
  let var1 := (raw / 16384 - t1 / 1024) * calib.digT2.toInt
  let var2 := raw / 131072 - t1 / 8192
  let var2 := var2 * var2 * calib.digT3.toInt
  (clamp (-40) 85 ((var1 + var2) / 5120), { calib with tFine := truncate (var1 + var2) })

def compensatePressure (uncomp : UncompData) (calib : CalibData) : ℚ :=
  let var1 : ℚ := calib.tFine.toInt / 2 - 64000
  let var2 := var1 * var1 * calib.digP6.toInt / 32768
  let var2 := var2 + var1 * calib.digP5.toInt * 2
  let var2 := var2 / 4 + calib.digP4.toInt * 65536
  let var3 := calib.digP3.toInt * var1 * var1 / 524288
  let var1 := (var3 + calib.digP2.toInt * var1) / 524288
  let var1 := (1 + var1 / 32768) * calib.digP1.toNat
  -- avoid exception caused by division by zero
  if var1 ≠ 0 then
    let pressure := 1048576 - uncomp.pressure.toNat
    let pressure := (pressure - var2 / 4096) * 6250 / var1
    let var1 := calib.digP9.toInt * pressure * pressure / 2147483648
    let var2 := pressure * calib.digP8.toInt / 32768
    clamp 30000 110000 (pressure + (var1 + var2 + calib.digP7.toInt) / 16)
  else 30000

def compensateHumidity (uncomp : UncompData) (calib : CalibData) : ℚ :=
  let var1 : ℚ := calib.tFine.toInt - 76800
  let var2 := calib.digH4.toInt * 64 + calib.digH5.toInt / 16384 * var1
  let var3 := uncomp.humidity.toNat - var2
  let var4 := calib.digH2.toInt / 65536
  let var5 := 1 + calib.digH3.toNat / 67108864 * var1
  let var6 := 1 + calib.digH6.toInt / 67108864 * var1 * var5
  let var6 := var3 * var4 * (var5 * var6)
  clamp 0 100 (var6 * (1 - calib.digH1.toNat * var6 / 524288))

def compensateData (sensorComp : UInt8) (uncomp : UncompData) (calib : CalibData) :
    Data × CalibData :=
  let (temperature, calib) :=
    if sensorComp &&& (press ||| temp ||| hum) ≠ 0 then compensateTemperature uncomp calib
    else (0, calib)
  ({ temperature
     pressure := if sensorComp &&& press ≠ 0 then compensatePressure uncomp calib else 0
     humidity := if sensorComp &&& hum ≠ 0 then compensateHumidity uncomp calib else 0 },
    calib)

/-- One bit of `crc_calculate`. -/
def crcBit (state : UInt32 × UInt8) : UInt32 × UInt8 :=
  let (crcReg, value) := state
  let din : UInt32 := if decide (crcReg &&& 0x80 > 0) ^^ decide (value &&& 0x80 > 0) then 1 else 0
  (((crcReg &&& 0x7F) <<< 1) ^^^ (0x1D * din), (value &&& 0x7F) <<< 1)

def crcCalculate (memValues : List UInt8) : UInt8 :=
  let crcReg := memValues.foldl (fun crcReg value => (crcBit^[8] (crcReg, value)).1) 0xFF
  (crcReg ^^^ 0xFF).toUInt8

section
variable {β : Type} (bus : Bus β)

/-- `read_regs` of i2c_BME280.c, the `read` callback. -/
def readRegs (addr reg : UInt8) (buf : List UInt8) : StateM β (RtErr × List UInt8) :=
  transferRead bus addr reg buf

/-- `write_regs` of i2c_BME280.c, the `write` callback. -/
def writeRegs (addr reg : UInt8) (buf : List UInt8) : StateM β RtErr :=
  transferWrite bus addr reg buf

def bme280GetRegs (regAddr : UInt8) (buf : List UInt8) (dev : Dev) :
    StateM β (Int × List UInt8) := do
  if nullPtrCheck dev ≠ ok then return (nullPtrCheck dev, buf)
  let (rslt, regData) ← readRegs bus dev.devId regAddr buf
  return (if rslt ≠ ok then eCommFail else ok, regData)

/-- `bme280_set_regs`, which the driver calls with one register each time. -/
def bme280SetRegs (regAddr : UInt8) (regData : UInt8) (dev : Dev) : StateM β Int := do
  if nullPtrCheck dev ≠ ok then return eNullPtr
  let rslt ← writeRegs bus dev.devId regAddr [regData]
  return if rslt ≠ ok then eCommFail else ok

/-- Read a register, change it, write it back. -/
def modifyReg (regAddr : UInt8) (change : UInt8 → UInt8) (dev : Dev) : StateM β Int := do
  let (rslt, regData) ← bme280GetRegs bus regAddr [0] dev
  if rslt = ok then bme280SetRegs bus regAddr (change (regData.getD 0 0)) dev else return rslt

def bme280SoftReset (dev : Dev) : StateM β Int := do
  if nullPtrCheck dev ≠ ok then return nullPtrCheck dev
  bme280SetRegs bus resetAddr 0xB6 dev

def bme280GetSensorMode (dev : Dev) : StateM β (Int × UInt8) := do
  if nullPtrCheck dev ≠ ok then return (nullPtrCheck dev, 0)
  let (rslt, regData) ← bme280GetRegs bus pwrCtrlAddr [0] dev
  return (rslt, getBits (regData.getD 0 0) sensorMode)

def setOsrHumiditySettings (settings : Settings) (dev : Dev) : StateM β Int := do
  let rslt ← bme280SetRegs bus ctrlHumAddr (settings.osrH &&& ctrlHum.msk) dev
  -- humidity changes take effect with the next write to ctrl_meas
  if rslt = ok then modifyReg bus ctrlMeasAddr id dev else return rslt

def setOsrPressTempSettings (desired : UInt8) (settings : Settings) (dev : Dev) : StateM β Int :=
  modifyReg bus ctrlMeasAddr (fun regData =>
    let regData := if desired &&& osrPressSel ≠ 0 then setBits regData ctrlPress settings.osrP
      else regData
    if desired &&& osrTempSel ≠ 0 then setBits regData ctrlTemp settings.osrT else regData) dev

/-- The result of the humidity part is overwritten by that of the other two. -/
def setOsrSettings (desired : UInt8) (settings : Settings) (dev : Dev) : StateM β Int := do
  let rslt ← if desired &&& osrHumSel ≠ 0 then setOsrHumiditySettings bus settings dev
    else pure wInvalidOsrMacro
  if desired &&& (osrPressSel ||| osrTempSel) ≠ 0 then
    setOsrPressTempSettings bus desired settings dev
  else return rslt

def setFilterStandbySettings (desired : UInt8) (settings : Settings) (dev : Dev) :
    StateM β Int :=
  modifyReg bus configAddr (fun regData =>
    let regData := if desired &&& filterSel ≠ 0 then setBits regData filter settings.filter
      else regData
    if desired &&& standbySel ≠ 0 then setBits regData standby settings.standbyTime
    else regData) dev

def reloadDeviceSettings (settings : Settings) (dev : Dev) : StateM β Int := do
  let rslt ← setOsrSettings bus allSettingsSel settings dev
  if rslt = ok then setFilterStandbySettings bus allSettingsSel settings dev else return rslt

def putDeviceToSleep (dev : Dev) : StateM β Int := do
  let (rslt, regData) ← bme280GetRegs bus ctrlHumAddr (List.replicate 4 0) dev
  if rslt ≠ ok then return rslt
  let settings := parseDeviceSettings regData
  let rslt ← bme280SoftReset bus dev
  if rslt = ok then reloadDeviceSettings bus settings dev else return rslt

def writePowerMode (mode : UInt8) (dev : Dev) : StateM β Int :=
  modifyReg bus pwrCtrlAddr (fun regData => setBits regData sensorMode mode) dev

/-- The common start of the two setters: leave every mode but sleep. -/
def ensureAsleep (dev : Dev) : StateM β Int := do
  if nullPtrCheck dev ≠ ok then return nullPtrCheck dev
  let (rslt, lastSetMode) ← bme280GetSensorMode bus dev
  if rslt = ok ∧ lastSetMode ≠ sleepMode then putDeviceToSleep bus dev else return rslt

def bme280SetSensorSettings (desired : UInt8) (dev : Dev) : StateM β Int := do
  let rslt ← ensureAsleep bus dev
  if rslt ≠ ok then return rslt
  let rslt ← if areSettingsChanged oversamplingSettings desired then
      setOsrSettings bus desired dev.settings dev
    else pure rslt
  if rslt = ok ∧ areSettingsChanged filterStandbySettings desired then
    setFilterStandbySettings bus desired dev.settings dev
  else return rslt

def bme280SetSensorMode (mode : UInt8) (dev : Dev) : StateM β Int := do
  let rslt ← ensureAsleep bus dev
  if rslt = ok then writePowerMode bus mode dev else return rslt

def getCalibData (dev : Dev) : StateM β (Int × Dev) := do
  let (rslt, calibData) ← bme280GetRegs bus tempPressCalibDataAddr (List.replicate 26 0) dev
  if rslt ≠ ok then return (rslt, dev)
  let dev := { dev with calibData := parseTempPressCalibData calibData dev.calibData }
  let (rslt, calibData) ← bme280GetRegs bus humidityCalibDataAddr (List.replicate 7 0) dev
  if rslt ≠ ok then return (rslt, dev)
  return (rslt, { dev with calibData := parseHumidityCalibData calibData dev.calibData })

/-- The loop of `bme280_init` over the remaining tries. -/
def bme280InitLoop : Nat → Dev → StateM β (Int × Dev)
  | 0, dev => return (eDevNotFound, dev)
  | tryCount + 1, dev => do
    let (rslt, chipId) ← bme280GetRegs bus chipIdAddr [0] dev
    if rslt = ok ∧ chipId.getD 0 0 = chipIdValue then
      let dev := { dev with chipId := chipId.getD 0 0 }
      let rslt ← bme280SoftReset bus dev
      if rslt = ok then getCalibData bus dev else return (rslt, dev)
    else bme280InitLoop tryCount dev

def bme280Init (dev : Dev) : StateM β (Int × Dev) := do
  if nullPtrCheck dev ≠ ok then return (nullPtrCheck dev, dev)
  bme280InitLoop bus 5 dev

def bme280CrcSelftest (dev : Dev) : StateM β Int := do
  let (rslt, storedCrc) ← bme280GetRegs bus crcDataAddr [0] dev
  if rslt ≠ ok then return rslt
  let (rslt, calib1) ← bme280GetRegs bus 0x88 (List.replicate 26 0) dev
  if rslt ≠ ok then return rslt
  let (rslt, calib2) ← bme280GetRegs bus 0xE1 (List.replicate 7 0) dev
  if rslt ≠ ok then return rslt
  return if storedCrc.getD 0 0 = crcCalculate (calib1 ++ calib2) then ok else wSelfTestFail

/-- The calibration data change with `t_fine`. -/
def bme280GetSensorData (sensorComp : UInt8) (compData : Data) (dev : Dev) :
    StateM β (Int × Data × Dev) := do
  if nullPtrCheck dev ≠ ok then return (eNullPtr, compData, dev)
  let (rslt, regData) ← bme280GetRegs bus dataAddr (List.replicate 8 0) dev
  if rslt ≠ ok then return (rslt, compData, dev)
  let (compData, calibData) := compensateData sensorComp (parseSensorData regData) dev.calibData
  return (ok, compData, { dev with calibData })

/-- `my_bme280_init` after the allocation: the configured device, or none on
the exits that free the block and return RT_NULL. -/
def myBme280Init (find : Option RtDevice) (addr : UInt8) : StateM β (Option Device) := do
  match find with
  | none => return none
  | some found =>
    if found.type = .i2cBus then
      let (rslt, dev) ← bme280Init bus { devId := addr, hasCallbacks := true }
      if rslt ≠ ok then return none
      if (← bme280CrcSelftest bus dev) ≠ ok then return none
      -- recommended mode of operation: weather monitoring
      let settings := { dev.settings with osrT := 3, osrH := 3, osrP := 3, filter := 0 }
      let dev := { dev with settings }
      let settingsSel := osrTempSel ||| osrPressSel ||| osrHumSel ||| filterSel
      if (← bme280SetSensorSettings bus settingsSel dev) ≠ ok then return none
      if (← bme280SetSensorMode bus forcedMode dev) ≠ ok then return none
      return some ⟨found, addr, dev⟩
    else return none

def myBme280GetData (bme280 : Option Device) (data : Data) :
    StateM β (RtErr × Data × Option Device) := do
  match bme280 with
  | none => return (-rtError, data, bme280)
  | some device =>
    if (← bme280SetSensorMode bus forcedMode device.dev) ≠ ok then
      return (-rtError, data, bme280)
    let (rslt, data, dev) ← bme280GetSensorData bus all data device.dev
    if rslt ≠ ok then return (-rtError, data, some { device with dev })
    return (rtEok, data, some { device with dev })

end
end WeatherStation.Bme280
