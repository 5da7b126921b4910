import ClusterMdns.Failure
import ClusterMdns.ServerUrl
import ClusterMdns.Text.Blank
import ClusterMdns.Text.Quoted

/-!
How the cluster is reached: by a file that names a server and how to speak to it, and another server
in its place where one is set. Without a file there is nothing to go by.
-/

namespace ClusterMdns.ClusterSettings

open ClusterMdns.Text

/-- The server that is set in place of the one in the file; an empty text sets none. -/
def otherServer? (settings : ClusterSettings) : Option String :=
  settings.server.filter fun server => !server.isEmpty

/-- What is said about the address of a server that is malformed. -/
def malformedServer (server : String) (fault : ServerUrl.Fault) : String :=
  "invalid master URL " ++ Quoted.encode server ++ ": " ++ fault.reason

/-- What comes before the path of everything that is asked for, if anything can be. The server that
the file names has no path. -/
def base? (settings : ClusterSettings) : Option (List Char) :=
  match settings.otherServer? with
  | none => some []
  | some server => ServerUrl.base? server

/-- Why the cluster cannot be spoken to, if it cannot. `named?` tells the server that a file names,
and a file that names none cannot be used. -/
def accessFailure? (named? : String → Option String) (settings : ClusterSettings) :
    Option Failure :=
  match settings.accessFile with
  | none => some .access
  | some path =>
    if (named? path).isNone then some .accessFile
    else
      settings.otherServer?.bind fun server =>
        (ServerUrl.fault? server).map fun fault => .settings (malformedServer server fault)

/-- The address of the server that is spoken to, as it is shown. -/
def shownServer (named? : String → Option String) (settings : ClusterSettings) : String :=
  ServerUrl.shown (settings.otherServer?.getD ((settings.accessFile.bind named?).getD ""))

/-- What stands before the server in a file that names one. -/
def serverMark : List Char := "server:".toList

/-- The server that the text of a file names: what stands behind the first mark that a line starts
with. -/
def serverIn? (text : String) : Option String :=
  let lines := (text.toList.splitOn '\n').map trim
  (lines.find? fun line => serverMark.isPrefixOf line).map fun line =>
    String.ofList (trim (line.drop serverMark.length))

end ClusterMdns.ClusterSettings
