import RtuShuiwen.Library.Bcd
import RtuShuiwen.Library.BlockMap
import RtuShuiwen.Library.ByteLayout
import RtuShuiwen.Library.CellMemory
import RtuShuiwen.Library.CommandScript
import RtuShuiwen.Library.MarkedStream
import RtuShuiwen.Library.MonthCalendar
import RtuShuiwen.Library.NorFlash
import RtuShuiwen.Library.RegionStore
import RtuShuiwen.Library.TaggedFields
import RtuShuiwen.Library.TransitionSystem
import RtuShuiwen.Memory.Malloc
import RtuShuiwen.Memory.Calendar
import RtuShuiwen.Memory.Parameters
import RtuShuiwen.Memory.SlotLayout
import RtuShuiwen.Memory.FlashStore
import RtuShuiwen.Hardware.W25qxx
import RtuShuiwen.Hardware.W25qxxTransactions
import RtuShuiwen.Hardware.W25qxxShared
import RtuShuiwen.Hardware.Alarm
import RtuShuiwen.Protocol.Crc16
import RtuShuiwen.Protocol.DataCodec
import RtuShuiwen.Protocol.ExactValues
import RtuShuiwen.Protocol.Messages
import RtuShuiwen.Protocol.Builders
import RtuShuiwen.Protocol.HourReport
import RtuShuiwen.Protocol.HourGroups
import RtuShuiwen.Protocol.TimePeriod
import RtuShuiwen.Protocol.Uplink
import RtuShuiwen.Gprs.Picture
import RtuShuiwen.Gprs.CheckReceive
import RtuShuiwen.Gprs.AtCommands
import RtuShuiwen.Ftp.Store
import RtuShuiwen.Ftp.StorReports
import RtuShuiwen.Ftp.Session
import RtuShuiwen.Ftp.Request
import RtuShuiwen.Ftp.Server
import RtuShuiwen.Ftp.MemoryUse
import RtuShuiwen.Ftp.SocketUse
import RtuShuiwen.Ftp.HeapUse
import RtuShuiwen.Library.LinkedList
import RtuShuiwen.Ftp.SessionList
import RtuShuiwen.Library.HandleTable
import RtuShuiwen.Protocol.ParameterUpdate
import RtuShuiwen.Protocol.PacketMarks
import RtuShuiwen.Protocol.Identity
import RtuShuiwen.Bluetooth.ModifyParameters
import RtuShuiwen.Thread.BasicMessage
import RtuShuiwen.Thread.Modes
import RtuShuiwen.Thread.SerialNumber
import RtuShuiwen.Thread.WaterLevel
import RtuShuiwen.Thread.Rainfall
import RtuShuiwen.Thread.PictureCycle
import RtuShuiwen.Thread.ReceiveCommand
import RtuShuiwen.Thread.CommandInterleaving
import RtuShuiwen.Thread.FlashWriters
import RtuShuiwen.Protocol.PeriodRange
import RtuShuiwen.Library.CString
import RtuShuiwen.Gprs.Envelope
import RtuShuiwen.Gprs.ReceivePath
import RtuShuiwen.Protocol.HourValues
import RtuShuiwen.Library.ShiftRegister
import RtuShuiwen.Protocol.Crc16Laws
import RtuShuiwen.Protocol.BcdFields
import RtuShuiwen.Memory.HighestFit
import RtuShuiwen.Library.CountedLoop
import RtuShuiwen.Hardware.Wk2124
import RtuShuiwen.Hardware.SerialReceive
import RtuShuiwen.Gprs.PictureUpload
import RtuShuiwen.Gprs.SendFailure
import RtuShuiwen.Gprs.PictureSerial
import RtuShuiwen.Library.AccessTrace
import RtuShuiwen.Bluetooth.ReceivePath
import RtuShuiwen.Library.GrayCode
import RtuShuiwen.Library.WordBits
import RtuShuiwen.Hardware.WaterSensor
import RtuShuiwen.Library.I2cBus
import RtuShuiwen.Hardware.Sd3078
import RtuShuiwen.Memory.HeapContents
import RtuShuiwen.Library.PriorityBitmap
import RtuShuiwen.Library.RingQueue
import RtuShuiwen.Library.Refinement
import RtuShuiwen.Ucosii.KernelRefinement
import RtuShuiwen.Lwip.Mailbox
import RtuShuiwen.Lwip.ByteStream
import RtuShuiwen.Library.PackedTable
import RtuShuiwen.FatFs.Window
import RtuShuiwen.Library.ChainTable
import RtuShuiwen.FatFs.FatEntries
import RtuShuiwen.FatFs.Chains
import RtuShuiwen.FatFs.Volume
