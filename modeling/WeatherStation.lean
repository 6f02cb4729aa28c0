import WeatherStation.Lib.Interference
import WeatherStation.Lib.Runs
import WeatherStation.Lib.Printf
import WeatherStation.Lib.BlockHeap
import WeatherStation.Ui
import WeatherStation.Hmc5883l
import WeatherStation.Ltr390
import WeatherStation.Bme280
import WeatherStation.Lib.History
import WeatherStation.MainLoop
import WeatherStation.BootMemory
import WeatherStation.Ownership
import WeatherStation.Keys
import WeatherStation.Handover
import WeatherStation.AdcSharing
import WeatherStation.Requests
import WeatherStation.Reports
import WeatherStation.DataFile
import WeatherStation.AfterEject
import WeatherStation.Periods
import WeatherStation.Navigation
import WeatherStation.Lib.Periodic
import WeatherStation.Lib.Loop
import WeatherStation.MainGuard
import WeatherStation.PollTiming
import WeatherStation.DustFilter
import WeatherStation.BusLog
import WeatherStation.LightModes
import WeatherStation.FailedReads
import WeatherStation.ConfigFields
import WeatherStation.ConfigCache
import WeatherStation.CsvRow
import WeatherStation.Camera
import WeatherStation.CameraFrames
import WeatherStation.DisplayStrings
import WeatherStation.Refresh
import WeatherStation.TouchDetect
import WeatherStation.TextCells
import WeatherStation.DrawnLine
import WeatherStation.DrawEnds
import WeatherStation.DrawnRectangle
import WeatherStation.Buttons
import WeatherStation.Stroke
import WeatherStation.Calibration
import WeatherStation.UvIndex
import WeatherStation.CameraFaults
import WeatherStation.CameraWindow
import WeatherStation.I2cRuns
import WeatherStation.SccbPins
import WeatherStation.SmallMemGaps
import WeatherStation.ScreenText
import WeatherStation.TouchSamples
