import TraceAdapter.Deploy.Tool
import TraceAdapter.Proofs.Text.Numerals

/-!
# Command lines are read back

A reader that goes from left to right and lets every option with a value take the next
word finds all that a command line says.  It never asks what a value looks like, so a
value that is the name of an option does no harm, and different requests have different
command lines.
-/

namespace TraceAdapter

namespace Order

/-!
## Options one after the other

Whatever words follow an option, the reader goes on with them.
-/

variable (o : Order) (rest : List String)

theorem take?_contractFile (w : String) :
    take? o ("--contract-file" :: w :: rest) = take? { o with contractFile := w } rest :=
  rfl

theorem take?_rpc (w : String) :
    take? o ("--rpc" :: w :: rest) = take? { o with rpcUrl := w } rest := rfl

theorem take?_forkPort (w : String) :
    take? o ("--fork-port" :: w :: rest) = take? { o with forkPort := w } rest := rfl

theorem take?_constructorWords (ws : List String) :
    take? o ((ws.flatMap fun w => ["--constructor-arg", w]) ++ rest) =
      take? { o with constructorWords := o.constructorWords ++ ws } rest := by
  induction ws generalizing o with
  | nil => rw [List.flatMap_nil, List.nil_append, List.append_nil]
  | cons w later ih =>
      have hfirst :
          take? o ("--constructor-arg" :: w ::
              ((later.flatMap fun w => ["--constructor-arg", w]) ++ rest)) =
            take? { o with constructorWords := o.constructorWords ++ [w] }
              ((later.flatMap fun w => ["--constructor-arg", w]) ++ rest) := rfl
      rw [List.flatMap_cons, List.append_assoc]
      refine hfirst.trans ?_
      rw [ih, List.append_assoc]
      rfl

/-!
An option that is absent has no words, and what was not said yet stays so.
-/

variable {o}

theorem take?_valueWords {name : String} (say : Option String -> Order)
    (habsent : say none = o)
    (hpresent : forall w rest, take? o (name :: w :: rest) = take? (say (some w)) rest)
    (value? : Option String) :
    take? o (valueWords name value? ++ rest) = take? (say value?) rest := by
  cases value? with
  | none =>
      rw [habsent]
      rfl
  | some w => exact hpresent w rest

theorem take?_flagWords {name : String} (say : Bool -> Order) (habsent : say false = o)
    (hpresent : forall rest, take? o (name :: rest) = take? (say true) rest)
    (given : Bool) :
    take? o (flagWords name given ++ rest) = take? (say given) rest := by
  cases given with
  | false =>
      rw [habsent]
      rfl
  | true => exact hpresent rest

theorem take?_forkUrl (h : o.forkUrl = none) (url? : Option String) :
    take? o (valueWords "--fork-url" url? ++ rest) =
      take? { o with forkUrl := url? } rest :=
  take?_valueWords rest (fun url? => { o with forkUrl := url? }) (by rw [← h])
    (fun _ _ => rfl) url?

theorem take?_forkBlock (h : o.forkBlock = none) (block? : Option String) :
    take? o (valueWords "--fork-block" block? ++ rest) =
      take? { o with forkBlock := block? } rest :=
  take?_valueWords rest (fun block? => { o with forkBlock := block? }) (by rw [← h])
    (fun _ _ => rfl) block?

theorem take?_reuseFork (h : o.reuseFork = false) (given : Bool) :
    take? o (flagWords "--reuse-fork" given ++ rest) =
      take? { o with reuseFork := given } rest :=
  take?_flagWords rest (fun given => { o with reuseFork := given }) (by rw [← h])
    (fun _ => rfl) given

theorem take?_keepFork (h : o.keepFork = false) (given : Bool) :
    take? o (flagWords "--keep-fork" given ++ rest) =
      take? { o with keepFork := given } rest :=
  take?_flagWords rest (fun given => { o with keepFork := given }) (by rw [← h])
    (fun _ => rfl) given

theorem take?_noSnapshot (h : o.noSnapshot = false) (given : Bool) :
    take? o (flagWords "--no-snapshot" given ++ rest) =
      take? { o with noSnapshot := given } rest :=
  take?_flagWords rest (fun given => { o with noSnapshot := given }) (by rw [← h])
    (fun _ => rfl) given

/-!
## Whole orders
-/

theorem ofWords?_words (o : Order) : ofWords? o.words = some o := by
  unfold ofWords? words
  simp only [List.append_assoc, List.cons_append, List.nil_append]
  rw [← List.append_nil (flagWords "--no-snapshot" o.noSnapshot), take?_contractFile,
    take?_rpc, take?_constructorWords, take?_forkUrl, take?_forkBlock, take?_forkPort,
    take?_reuseFork, take?_keepFork, take?_noSnapshot]
  -- What is left is that nothing was said before its turn.
  all_goals rfl

/-- A file, an endpoint and arguments that are named like options are read as what they
are. -/
example :
    ofWords? (words { contractFile := "--no-snapshot", rpcUrl := "--fork-port"
                      constructorWords := ["--rpc", "--keep-fork"]
                      forkUrl := some "--reuse-fork", forkPort := "8545" }) =
      some { contractFile := "--no-snapshot", rpcUrl := "--fork-port"
             constructorWords := ["--rpc", "--keep-fork"]
             forkUrl := some "--reuse-fork", forkPort := "8545" } := by
  decide

end Order

namespace DeployRequest

/-!
## Requests
-/

end DeployRequest

namespace DeployTool

theorem ofWords?_commandLine (t : DeployTool) (r : DeployRequest) :
    Order.ofWords? ((t.commandLine r).drop t.words.length) = some r.order := by
  unfold commandLine
  rw [List.drop_left]
  exact Order.ofWords?_words r.order

end DeployTool

end TraceAdapter
