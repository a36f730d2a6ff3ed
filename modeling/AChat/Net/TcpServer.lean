import Std.Data.TreeMap
import AChat.Lib.Decimal

/-!
Owns the connections of a TCP server: the names it gives them, and the map from names to
connections.

The address of the server is a C string. All calls are in the loop of the server, and
the counter of the connections stays in the range of `int`.
-/

namespace AChat.Net

open Lib Std

/-- A `TcpConnectionPtr` of the server. -/
abbrev ServerConnPtr := Nat

/-- `snprintf` into an array of this size: the text, cut before the last byte. -/
def snprintf (size : Nat) (text : Bytes) : Bytes :=
  text.take (size - 1)

structure TcpServer where
  hostport : Bytes
  name : Bytes
  nextConnId : Nat
  connections : TreeMap Bytes ServerConnPtr

namespace TcpServer

/-- The constructor. -/
def new (hostport name : Bytes) : TcpServer where
  hostport := hostport
  name := name
  nextConnId := 1
  connections := ∅

/-- The name of the connection with a number: `":%s#%d"` in 32 bytes, after the name of the
server. -/
def connName (hostport name : Bytes) (connId : Nat) : Bytes :=
  name ++ snprintf 32 ([58] ++ hostport ++ [35] ++ decimal connId)

/-- `newConnection`, and the name it gives. -/
def newConnection (server : TcpServer) (conn : ServerConnPtr) : Bytes × TcpServer :=
  let connName := connName server.hostport server.name server.nextConnId
  (connName,
    { server with
      nextConnId := server.nextConnId + 1
      connections := server.connections.insert connName conn })

/-- `removeConnectionInLoop` of a connection with this name, and whether it queues
`connectDestroyed`. -/
def removeConnectionInLoop (server : TcpServer) (connName : Bytes) : Bool × TcpServer :=
  (server.connections.contains connName,
    { server with connections := server.connections.erase connName })

end TcpServer

end AChat.Net
