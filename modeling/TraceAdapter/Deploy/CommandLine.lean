import TraceAdapter.Deploy.Request
import TraceAdapter.Json.Printer

/-!
# The command line of a deploy tool

The words for a request follow those that are configured.  An option with a
value takes the next word whatever it is, so no text of a client can pass for
an option.
-/

namespace TraceAdapter

/-- What the command line says of a request, arguments of the constructor being
words. -/
structure Order where
  contractFile : String := ""
  rpcUrl : String := ""
  constructorWords : List String := []
  forkUrl : Option String := none
  forkBlock : Option String := none
  forkPort : String := ""
  reuseFork : Bool := false
  keepFork : Bool := false
  noSnapshot : Bool := false
  deriving DecidableEq, Repr

namespace Order

def valueWords (name : String) : Option String -> List String
  | some value => [name, value]
  | none => []

def flagWords (name : String) (given : Bool) : List String :=
  if given then [name] else []

def words (o : Order) : List String :=
  ["--contract-file", o.contractFile, "--rpc", o.rpcUrl] ++
    (o.constructorWords.flatMap fun w => ["--constructor-arg", w]) ++
    valueWords "--fork-url" o.forkUrl ++
    valueWords "--fork-block" o.forkBlock ++
    ["--fork-port", o.forkPort] ++
    flagWords "--reuse-fork" o.reuseFork ++
    flagWords "--keep-fork" o.keepFork ++
    flagWords "--no-snapshot" o.noSnapshot

/-- Take words from left to right; an option with a value takes exactly the
next one. -/
def take? (o : Order) : List String -> Option Order
  | [] => some o
  | "--reuse-fork" :: rest => take? { o with reuseFork := true } rest
  | "--keep-fork" :: rest => take? { o with keepFork := true } rest
  | "--no-snapshot" :: rest => take? { o with noSnapshot := true } rest
  | "--contract-file" :: w :: rest => take? { o with contractFile := w } rest
  | "--rpc" :: w :: rest => take? { o with rpcUrl := w } rest
  | "--constructor-arg" :: w :: rest =>
      take? { o with constructorWords := o.constructorWords ++ [w] } rest
  | "--fork-url" :: w :: rest => take? { o with forkUrl := some w } rest
  | "--fork-block" :: w :: rest => take? { o with forkBlock := some w } rest
  | "--fork-port" :: w :: rest => take? { o with forkPort := w } rest
  | _ => none

def ofWords? (words : List String) : Option Order := take? {} words

end Order

namespace DeployRequest

/-- The word for an argument of a constructor: a text itself, any other value
as JSON. -/
def argumentWord : Json.Value -> String
  | .string s => s
  | v => v.print

def order (r : DeployRequest) : Order where
  contractFile := r.contractFile
  rpcUrl := r.rpcUrl
  constructorWords := r.constructorArgs.map argumentWord
  forkUrl := r.forkUrl
  forkBlock := r.forkBlock.map Numeral.decimal
  forkPort := Numeral.decimal r.forkPort
  reuseFork := r.reuseFork
  keepFork := r.keepFork
  noSnapshot := ! r.autoSnapshot

def words (r : DeployRequest) : List String := r.order.words

end DeployRequest
end TraceAdapter
