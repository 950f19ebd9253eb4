import GameServer.Aoi.Convergence
import GameServer.Gateway.Isolation
import GameServer.Gateway.Outcome
import GameServer.Gateway.PushAuthority
import GameServer.Gateway.Bracketing
import GameServer.Gateway.RegistryIntegrity
import GameServer.Gateway.SessionIndex
import GameServer.Db.AtMostOnce
import GameServer.Db.ActiveIndex
import GameServer.Db.TransactionTruth
import GameServer.Scene.RoundTrip
import GameServer.Aoi.FrameSize
import GameServer.Aoi.SnapshotTokens
import GameServer.Net.FrameStream
import GameServer.Scene.PlayerPersistence
import GameServer.Aoi.Lifetime
import GameServer.Timer.TimerThread
import GameServer.Timer.CatchUp
import GameServer.Timer.Exact
import GameServer.Timer.Cancel
import GameServer.Net.PendingDiscipline
import GameServer.Net.PendingRun
import GameServer.Scene.LogicThread
import GameServer.Scene.PlayerChange
import GameServer.Scene.SaveRecord
import GameServer.Scene.PlayerLife
import GameServer.Scene.LifeSteps
import GameServer.Scene.LifeSane
import GameServer.Scene.OnlineSurvival
import GameServer.Aoi.Coalescing
import GameServer.Chat.Relay
import GameServer.Aoi.Conservation
import GameServer.Scene.PlayerService
import GameServer.Aoi.WatchSquare
import GameServer.Scene.BagHistory
import GameServer.Scene.Economy
import GameServer.Lib.Codec
import GameServer.Net.Words
import GameServer.Aoi.Wire
import GameServer.Db.Codec
import GameServer.Scene.Shipping
import GameServer.Db.RedisKey
import GameServer.Db.RedisConfinement
import GameServer.Lua.Reload
import GameServer.Gateway.PlayerSessions
import GameServer.Gateway.ReplacedBindings
import GameServer.Zone.ViewFrames
import GameServer.Scene.SavesKept
import GameServer.Timer.UserIndex
import GameServer.Lib.Window
import GameServer.Base.Buffer
import GameServer.Base.ByteQueue
import GameServer.Log.AsyncLogger
import GameServer.Log.Rolling
import GameServer.Loop.TimerQueue
import GameServer.Loop.TimerAccounts
import GameServer.Loop.TimerLife
import GameServer.Loop.TcpConnection
import GameServer.Loop.ClosedConnection
import GameServer.Loop.Shutdown
import GameServer.Lib.JsonGrammar
import GameServer.Base.Json
import GameServer.Base.JsonDialects
import GameServer.Base.JsonAccepts
import GameServer.Base.JsonLayout
import GameServer.Lua.DbCallbacks
import GameServer.Lua.TaskOutcome
import GameServer.Lua.CallbacksKept
import GameServer.Lua.CallbackCalls
import GameServer.Lua.CallbackRuns
import GameServer.Base.Yaml
import GameServer.Base.YamlStyle
import GameServer.Base.YamlLines
import GameServer.Base.YamlPaths
import GameServer.Base.YamlReads
import GameServer.Lib.LuaApi
import GameServer.Lua.Schema
import GameServer.Lua.PbLua
import GameServer.Lua.TableFaults
import GameServer.Lua.TableWrites
import GameServer.Lua.TableRoundTrip
import GameServer.Lua.TableExact
import GameServer.Loop.EventLoop
import GameServer.Log.LogThread
import GameServer.Net.PlayerStreams
import GameServer.Scene.BindingMirror
import GameServer.Scene.BindingSource
import GameServer.Zone.SceneBinding
import GameServer.Gateway.BindingEpochs
import GameServer.Gateway.SceneTraffic
import GameServer.Net.Envelope
import GameServer.Net.FrameOutcome
import GameServer.Gateway.RequestNumbers
import GameServer.Zone.Arrival
import GameServer.Zone.ZoneServers
import GameServer.Zone.EndToEnd
import GameServer.Timer.Schedule
import GameServer.Lua.TimerCalls
import GameServer.Lua.ScriptTimers
