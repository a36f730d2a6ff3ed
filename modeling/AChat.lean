import AChat.Lib.Reach
import AChat.Lib.TreeMapSum
import AChat.Lib.Stdio
import AChat.Lib.FileScope
import AChat.Lib.HandleLog
import AChat.MsgServer.RegistryConsistency
import AChat.MsgServer.PendingLogin
import AChat.MsgServer.OnlineCount
import AChat.MsgServer.ClientClass
import AChat.FileServer.UploadTarget
import AChat.FileServer.UploadCompletion
import AChat.FileServer.HandleDiscipline
import AChat.FileServer.DownloadStream
import AChat.FileServer.ProgressArithmetic
import AChat.Net.SessionList
import AChat.Lib.AutoTable
import AChat.Lib.Prog
import AChat.Lib.Interleaving
import AChat.Net.EpollRegistration
import AChat.Net.TcpOutput
import AChat.Net.TcpLifeCycle
import AChat.MsgServer.ReplyRouting
import AChat.DbProxy.ProxyConn
import AChat.DbProxy.MessageAck
import AChat.DbProxy.RelationUniqueness
import AChat.DbProxy.MessageIds
import AChat.DbProxy.SessionTouch
import AChat.DbProxy.PoolDeadlock
import AChat.DbProxy.CacheConn
import AChat.DbProxy.MembershipConsistency
import AChat.Lib.Decimal
import AChat.Lib.ByteOrder
import AChat.Lib.Varint
import AChat.Lib.Loop
import AChat.Lib.Words
import AChat.Lib.Framing
import AChat.Net.TimerRounds
import AChat.Net.TimerKinds
import AChat.Net.ConnectionNames
import AChat.Lib.Mailboxes
import AChat.Net.ServerLoops
import AChat.Net.Connector
import AChat.Net.EventLoop
import AChat.Net.RetrySchedule
import AChat.Net.ByteQueue
import AChat.Net.BufferRead
import AChat.Net.StreamRoundTrip
import AChat.Net.StreamReaderBounds
import AChat.Net.StreamReadFailure
import AChat.Net.Int64Text
import AChat.FileServer.PackageFraming
import AChat.FileServer.BrokenConnection
import AChat.FileServer.PathConfinement
import AChat.Lib.StreamFrame
import AChat.Lib.Pages
import AChat.FileServer.SessionIsolation
import AChat.FileServer.UploadDownload
import AChat.Base.PduLength
import AChat.Base.PduSetters
import AChat.Base.ImConn
import AChat.Base.ImConnOutput
import AChat.Base.ImLink
import AChat.Base.AsyncLog
import AChat.DbProxy.ProxyReceive
import AChat.LoginDispatch.OnlineTotal
import AChat.LoginDispatch.LeastLoaded
import AChat.LoginDispatch.HttpParserWrapper
import AChat.LoginDispatch.ResponseFraming
import AChat.MsgServer.SingleDelivery
import AChat.MsgServer.SelfMessage
import AChat.MsgServer.Reconnect
import AChat.MsgServer.PendingAcks
import AChat.MsgServer.GroupNotify
import AChat.MsgServer.DbServChoice
import AChat.Lib.Metered
import AChat.MsgServer.MessageLimit
import AChat.MsgServer.ClientTimeout
import AChat.DbProxy.PoolDiscipline
import AChat.DbProxy.SyncCenter
import AChat.DbProxy.GroupSync
import AChat.DbProxy.UserSync
import AChat.DbProxy.InterLogin
import AChat.DbProxy.DevicesToken
import AChat.DbProxy.ClientStatements
import AChat.DbProxy.GroupRemoval
import AChat.DbProxy.UnreadCounters
import AChat.DbProxy.UnreadTotals
import AChat.DbProxy.MessageHistory
import AChat.DbProxy.MessageLookup
import AChat.DbProxy.MessageReadBack
import AChat.DbProxy.AudioContent
import AChat.Lib.BitStream
import AChat.Lib.MessageHead
import AChat.Lib.BlockBuffer
import AChat.Security.Base64
import AChat.Security.Envelope
import AChat.Lib.IteratedCipher
import AChat.Lib.Reindex
import AChat.Lib.BlockHash
import AChat.Security.AesTables
import AChat.Security.AesCore
import AChat.Security.AesCipher
import AChat.Security.AesSchedule
import AChat.Security.AesMessages
import AChat.Security.Md5
import AChat.Security.Md5Streaming
import AChat.DbProxy.MultiGet
import AChat.Net.SevenBitIntegers
import AChat.Lib.CString
import AChat.Lib.ReadLines
import AChat.Base.ConfigFileReader
import AChat.Base.StrExplode
import AChat.Base.MemFind
import AChat.Base.UrlCodec
import AChat.Base.IdToUrl
import AChat.Base.ReplaceMark
