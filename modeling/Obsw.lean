import Obsw.Boot.Check
import Obsw.Boot.Counters
import Obsw.Boot.SdcPair
import Obsw.Engine.NorContent
import Obsw.Engine.HammingCopy
import Obsw.Engine.NorCheck
import Obsw.Engine.NorSectors
import Obsw.Engine.SdcCopy
import Obsw.Engine.NandCopy
import Obsw.Engine.NandContent
import Obsw.Boot.Nand
import Obsw.Boot.Preferred
import Obsw.Boot.Update
import Obsw.Sdc.Volume
import Obsw.Sdc.Read
import Obsw.Tmtc.PusParser
import Obsw.Tmtc.SerialBridge
import Obsw.Image.Reports
import Obsw.Sdc.CopyReply
import Obsw.Sdc.Cycle
import Obsw.Pus.Service23
import Obsw.Engine.FileHandles
import Obsw.Core.SystemStateTask
import Obsw.Core.UptimeSeconds
import Obsw.Core.DeploymentTimer
import Obsw.Core.TotalRunTime
import Obsw.Core.Actions
import Obsw.Tmtc.TmFunnel
import Obsw.ComIF.I2c
import Obsw.Devices.Gyro
import Obsw.Devices.GyroReplies
import Obsw.Devices.GyroRunning
import Obsw.Boot.Erased
import Obsw.Boot.DefaultZero
import Obsw.Fram.HamCode
import Obsw.Fram.NoOs
import Obsw.Boot.HammingCheck
import Obsw.Fram.Virtual
import Obsw.ComIF.Spi
import Obsw.ComIF.Usb
import Obsw.ComIF.Uart
import Obsw.ComIF.At91SpiServed
import Obsw.Sdc.Packets
import Obsw.Sdc.UpdateRequest
import Obsw.Sdc.CopyRefused
import Obsw.Sdc.CreateFile
import Obsw.ActionData
import Obsw.Engine.NandRetry
import Obsw.Engine.NandBlocks
import Obsw.Sdc.ClearCard
import Obsw.Sdc.PrintCard
import Obsw.Sdc.FileMap
import Obsw.Sdc.Serialize
import Obsw.Sdc.WriteCommands
import Obsw.Tmtc.PusFrames
import Obsw.Tmtc.AnalyzerProgress
import Obsw.Tmtc.TcReception
import Obsw.TmStore
import Obsw.ComIF.UsbSend
import Obsw.Core.StatsGeneration
import Obsw.ComIF.I2cReadSize
import Obsw.ComIF.SpiTransferSize
import Obsw.Devices.Gps
import Obsw.Devices.GpsCommands
import Obsw.Devices.Mgm
import Obsw.Devices.ThermalSensor
import Obsw.Assembly.Gyro
import Obsw.Assembly.ModePairs
import Obsw.Utility.TcTimerHandler
import Obsw.Utility.CommunicationMessage
import Obsw.Boot.HammingJump
import Obsw.Freertos.Heap4Run
import Obsw.Freertos.Queue
import Obsw.Freertos.TaskPeriod
import Obsw.Freertos.TaskTurns
