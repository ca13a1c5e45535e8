import Reckon.Json.Printer
import Reckon.Service.Basic
import Reckon.Service.Launch
import Reckon.Service.Wire

/-
The program: it tells that it has started and then answers requests, one JSON object
on each line of its input, until the input ends.
-/
namespace Reckon.Program
open Number Service

/-- Without a way out to a language model nothing can be sent. -/
def unreachable : Tutor.Channel Unit := ⟨Tutor.Model.absent, fun _ _ => ((), .offline [])⟩

/-- The rules for modes: a lock lasts a second, and input must be quiet for half of one. -/
def setup : Setup Double Unit :=
  { policy := ⟨1, .ofRatio false 1 2, false⟩, channel := unreachable }

def answerLine (s : State Double Unit) (m : Moment Double) (line : String) :
    State Double Unit × String :=
  match Json.read line.toList with
  | none => (s, String.ofList (Answer.toJson (.bare 400)).print)
  | some v =>
    let (s, a) := s.answer setup (Request.ofJson v) m
    (s, String.ofList a.toJson.print)

/-- The moment at which a line is answered. -/
def moment : IO (Moment Double) := do
  let milliseconds ← IO.monoMsNow
  pure ⟨.ofRatio false milliseconds 1000, (toString milliseconds).toList⟩

/-- Lines are answered until there are no more. -/
partial def serve (input output : IO.FS.Stream) (s : State Double Unit) : IO Unit := do
  let line ← input.getLine
  if line.isEmpty then return
  let (s, answer) := answerLine s (← moment) line
  output.putStrLn answer
  output.flush
  serve input output s

end Reckon.Program

open Reckon in
def main : IO UInt32 := do
  let report := Service.Launch.report { hasModel := Program.setup.channel.model.isAvailable }
  IO.print (String.ofList report.text)
  Program.serve (← IO.getStdin) (← IO.getStdout) { line := () }
  pure (UInt32.ofNat report.exitCode)
