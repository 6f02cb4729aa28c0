import WeatherStation.Lib.Runs
import Mathlib.Data.Rat.Floor

/-! stm32f1xx_hal_adc.c as adc_GP2Y1014AU0F.c and adc_LM386.c use it.  Both
drivers have a static handle of their own, and both handles refer to ADC1. -/
namespace WeatherStation.Adc
open Lib

/-- The registers of ADC1 that the drivers reach.  A write reads back at once,
so the waits of the HAL for ADON end in their first test. -/
structure Adc1 where
  eoc : Bool
  cr1 : UInt32
  cr2 : UInt32
  smpr2 : UInt32
  sqr1 : UInt32
  sqr3 : UInt32
  dr : UInt32
  /-- Channels sampled so far, newest first. -/
  sampled : List Nat
  deriving DecidableEq

def Adc1.reset : Adc1 := ⟨false, 0, 0, 0, 0, 0, 0, []⟩

def adcCr1Scan : UInt32 := 0x00000100
def adcCr1Discen : UInt32 := 0x00000800
def adcCr1Discnum : UInt32 := 0x0000E000
def adcCr2Adon : UInt32 := 0x00000001
def adcCr2Cont : UInt32 := 0x00000002
def adcCr2Dma : UInt32 := 0x00000100
def adcCr2Align : UInt32 := 0x00000800
def adcCr2Jextsel : UInt32 := 0x00007000
def adcCr2Jexttrig : UInt32 := 0x00008000
def adcCr2Extsel : UInt32 := 0x000E0000
def adcCr2Exttrig : UInt32 := 0x00100000
def adcCr2Jswstart : UInt32 := 0x00200000
def adcCr2Swstart : UInt32 := 0x00400000
def adcCr2Tsvrefe : UInt32 := 0x00800000
def adcSqr1L : UInt32 := 0x00F00000
def adcSqr3Sq1 : UInt32 := 0x0000001F
def adcSmpr2Smp0 : UInt32 := 0x00000007

def adcScanDisable : UInt32 := 0
def adcSoftwareStart : UInt32 := 0x000E0000
def adcDataalignRight : UInt32 := 0
def adcRegularRank1 : UInt32 := 1
def adcSampletime71Cycles5 : UInt32 := 6

def modifyReg (reg clearMask setMask : UInt32) : UInt32 := (reg &&& ~~~clearMask) ||| setMask

namespace Adc1
variable (adc1 : Adc1)

/-- ADC_IS_ENABLE. -/
def isEnable : Bool := adc1.cr2 &&& adcCr2Adon = adcCr2Adon

/-- ADC_IS_SOFTWARE_START_REGULAR. -/
def isSoftwareStartRegular : Bool := adc1.cr2 &&& adcCr2Extsel = adcSoftwareStart

/-- The channel in rank 1 of the regular group. -/
def rank1 : Nat := (adc1.sqr3 &&& adcSqr3Sq1).toNat

/-- What the peripheral does on SWSTART: it samples the channel in rank 1 and
raises EOC. -/
def convert (analog : Nat → UInt32) : Adc1 :=
  if adc1.isEnable ∧ adc1.isSoftwareStartRegular ∧
      adc1.cr2 &&& (adcCr2Swstart ||| adcCr2Exttrig) = adcCr2Swstart ||| adcCr2Exttrig then
    { adc1 with
      cr2 := adc1.cr2 &&& ~~~adcCr2Swstart
      eoc := true
      dr := analog adc1.rank1
      sampled := adc1.rank1 :: adc1.sampled }
  else adc1

end Adc1

/-- `hadc->State`, one field for each bit that these calls touch; the state
HAL_ADC_STATE_RESET has none of them. -/
structure HalState where
  ready : Bool
  busyInternal : Bool
  timeout : Bool
  errorInternal : Bool
  errorConfig : Bool
  regBusy : Bool
  regEoc : Bool
  deriving DecidableEq

structure Init where
  scanConvMode : UInt32
  continuousConvMode : UInt32
  discontinuousConvMode : UInt32
  externalTrigConv : UInt32
  dataAlign : UInt32
  nbrOfConversion : UInt32
  deriving DecidableEq

/-- ADC_HandleTypeDef with `Instance` ADC1; its error code is never read. -/
structure Handle where
  init : Init
  locked : Bool
  state : HalState
  deriving DecidableEq

def Handle.reset : Handle :=
  ⟨⟨0, 0, 0, 0, 0, 0⟩, false, ⟨false, false, false, false, false, false, false⟩⟩

structure ChannelConf where
  channel : UInt32
  rank : UInt32
  samplingTime : UInt32

inductive HalStatus where
  | ok | error | busy | timeout
  deriving DecidableEq, Repr

/-- The peripheral with the handle that a HAL call is given. -/
structure Port where
  adc1 : Adc1
  hadc : Handle

/-- `ADC_Enable`. -/
def adcEnable (adc1 : Adc1) : Adc1 :=
  if adc1.isEnable then adc1 else { adc1 with cr2 := adc1.cr2 ||| adcCr2Adon }

/-- `ADC_ConversionStop_Disable`. -/
def adcConversionStopDisable (adc1 : Adc1) : Adc1 :=
  if adc1.isEnable then { adc1 with cr2 := adc1.cr2 &&& ~~~adcCr2Adon } else adc1

/-- The register part of `HAL_ADC_Init`; discontinuous mode is off in both
drivers.  The result says whether CR2 reads back as configured. -/
def configure (init : Init) (adc1 : Adc1) : Bool × Adc1 :=
  let scan := if init.scanConvMode = adcCr1Scan ∨ init.scanConvMode = 1 then adcCr1Scan
    else adcScanDisable
  let tmpCr2 := init.dataAlign ||| init.externalTrigConv ||| init.continuousConvMode <<< 1
  let tmpSqr1 := if scan = adcCr1Scan then (init.nbrOfConversion - 1) <<< 20 else 0
  let cr2 := modifyReg adc1.cr2 (adcCr2Align ||| adcCr2Extsel ||| adcCr2Exttrig ||| adcCr2Cont)
    tmpCr2
  let unchecked := adcCr2Adon ||| adcCr2Dma ||| adcCr2Swstart ||| adcCr2Jswstart |||
    adcCr2Jexttrig ||| adcCr2Jextsel ||| adcCr2Tsvrefe
  (cr2 &&& ~~~unchecked = tmpCr2,
    { adc1 with
      cr1 := modifyReg adc1.cr1 (adcCr1Scan ||| adcCr1Discen ||| adcCr1Discnum) scan
      cr2
      sqr1 := modifyReg adc1.sqr1 adcSqr1L tmpSqr1 })

/-- `HAL_ADC_Init`; the clock and pin set-up of `HAL_ADC_MspInit` is left out. -/
def halAdcInit (port : Port) : HalStatus × Port :=
  let hadc := if port.hadc.state = Handle.reset.state then { port.hadc with locked := false }
    else port.hadc
  let adc1 := adcConversionStopDisable port.adc1
  if hadc.state.errorInternal then
    (.error, ⟨adc1, hadc⟩)
  else
    let (applied, adc1) := configure hadc.init adc1
    let state := { hadc.state with regBusy := false, busyInternal := false }
    if applied then (.ok, ⟨adc1, { hadc with state := { state with ready := true } }⟩)
    else (.error, ⟨adc1, { hadc with state := { state with errorInternal := true } }⟩)

/-- `HAL_ADC_ConfigChannel` for ranks 1 to 6 and channels 0 to 9. -/
def halAdcConfigChannel (sConfig : ChannelConf) (port : Port) : HalStatus × Port :=
  if port.hadc.locked then (.busy, port)
  else
    let shift := 5 * (sConfig.rank - 1)
    let sampleShift := 3 * sConfig.channel
    (.ok, { port with adc1 := { port.adc1 with
      sqr3 := modifyReg port.adc1.sqr3 (adcSqr3Sq1 <<< shift) (sConfig.channel <<< shift)
      smpr2 := modifyReg port.adc1.smpr2 (adcSmpr2Smp0 <<< sampleShift)
        (sConfig.samplingTime <<< sampleShift) } })

def halAdcStart (analog : Nat → UInt32) (port : Port) : HalStatus × Port :=
  if port.hadc.locked then (.busy, port)
  else
    let adc1 := adcEnable port.adc1
    let state := { port.hadc.state with ready := false, regEoc := false, regBusy := true }
    let adc1 := { adc1 with eoc := false }
    let trigger := if adc1.isSoftwareStartRegular then adcCr2Swstart ||| adcCr2Exttrig
      else adcCr2Exttrig
    let adc1 := { adc1 with cr2 := adc1.cr2 ||| trigger }
    (.ok, ⟨adc1.convert analog, { port.hadc with state, locked := false }⟩)

/-- `HAL_ADC_PollForConversion`: the conversion is over by the time of the
call, or it never comes. -/
def halAdcPollForConversion (port : Port) : HalStatus × Port :=
  if port.adc1.cr2 &&& adcCr2Dma ≠ 0 then
    (.error, { port with hadc := { port.hadc with
      locked := false, state := { port.hadc.state with errorConfig := true } } })
  else if port.adc1.cr1 &&& adcCr1Scan = 0 ∧ port.adc1.sqr1 &&& adcSqr1L = 0 ∧
      port.adc1.eoc = false then
    (.timeout, { port with hadc := { port.hadc with
      locked := false, state := { port.hadc.state with timeout := true } } })
  else
    let state := { port.hadc.state with regEoc := true }
    let state := if port.adc1.isSoftwareStartRegular ∧ port.hadc.init.continuousConvMode = 0 then
        { state with regBusy := false, ready := true }
      else state
    (.ok, ⟨{ port.adc1 with eoc := false }, { port.hadc with state }⟩)

def halAdcGetValue (port : Port) : UInt32 := port.adc1.dr

def halAdcStop (port : Port) : HalStatus × Port :=
  if port.hadc.locked then (.busy, port)
  else
    (.ok, ⟨adcConversionStopDisable port.adc1, { port.hadc with
      locked := false, state := { port.hadc.state with regBusy := false, ready := true } }⟩)

/-- `my_MX_ADC1_Init` of both drivers, which differ in the channel.  The error
branches call a function that is not part of the repository; neither is
taken. -/
def myMxAdc1Init (channel : UInt32) (port : Port) : Port :=
  let hadc := { port.hadc with init :=
    { scanConvMode := adcScanDisable
      continuousConvMode := 0
      discontinuousConvMode := 0
      externalTrigConv := adcSoftwareStart
      dataAlign := adcDataalignRight
      nbrOfConversion := 1 } }
  let port := (halAdcInit { port with hadc }).2
  (halAdcConfigChannel ⟨channel, adcRegularRank1, adcSampletime71Cycles5⟩ port).2

/-- Start, wait, read, and later stop: the conversion of both drivers. -/
def convertOnce (analog : Nat → UInt32) (port : Port) : UInt32 × Port :=
  let port := (halAdcStart analog port).2
  let port := (halAdcPollForConversion port).2
  (halAdcGetValue port, (halAdcStop port).2)

/-- The static variables of `my_filter`. -/
structure Filter where
  flagFirst : UInt32
  buffer : List UInt32
  sum : UInt32
  deriving DecidableEq

def Filter.reset : Filter := ⟨0, List.replicate 10 0, 0⟩

/-- The mean is stored in an 8-bit variable before it is returned. -/
def myFilter (filter : Filter) (data : UInt32) : UInt32 × Filter :=
  if filter.flagFirst = 0 then
    (data, ⟨1, List.replicate 10 data, 10 * data⟩)
  else
    let sum := filter.sum - filter.buffer.headD 0 + data
    ((sum / 10).toUInt8.toUInt32, { filter with buffer := filter.buffer.drop 1 ++ [data], sum })

/-- ADC1 and the static data of the two drivers. -/
structure Drivers where
  adc1 : Adc1
  gp2y1014au0f : Handle
  lm386 : Handle
  filter : Filter
  deriving DecidableEq

def Drivers.reset : Drivers := ⟨.reset, .reset, .reset, .reset⟩

def gp2y1014au0fChannel : UInt32 := 5
def lm386Channel : UInt32 := 6

/-- The infrared LED pin, low after the call, is left out here and below. -/
def myGp2y1014au0fInit (drivers : Drivers) : Drivers :=
  let port := myMxAdc1Init gp2y1014au0fChannel ⟨drivers.adc1, drivers.gp2y1014au0f⟩
  { drivers with adc1 := port.adc1, gp2y1014au0f := port.hadc }

def myLm386Init (drivers : Drivers) : Drivers :=
  let port := myMxAdc1Init lm386Channel ⟨drivers.adc1, drivers.lm386⟩
  { drivers with adc1 := port.adc1, lm386 := port.hadc }

def voltageSys : ℚ := 33 / 10
def voltageNoDust : ℚ := 6 / 10
def covRatio : ℚ := 100 / (5 / 10)

def myGp2y1014au0fGetData (analog : Nat → UInt32) (drivers : Drivers) : ℚ × Drivers :=
  let (value, port) := convertOnce analog ⟨drivers.adc1, drivers.gp2y1014au0f⟩
  let (value, filter) := myFilter drivers.filter value
  let voltage : ℚ := value.toNat / 4096 * voltageSys * 11
  let density := if voltage ≥ voltageNoDust then (voltage - voltageNoDust) * covRatio else 0
  (density, { drivers with adc1 := port.adc1, gp2y1014au0f := port.hadc, filter })

def myLm386GetData (analog : Nat → UInt32) (drivers : Drivers) : ℚ × Drivers :=
  let (value, port) := convertOnce analog ⟨drivers.adc1, drivers.lm386⟩
  (value.toNat / 4096 * voltageSys, { drivers with adc1 := port.adc1, lm386 := port.hadc })

end WeatherStation.Adc
