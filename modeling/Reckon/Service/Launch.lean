/-
Starting the service: what is told to the one who starts it, and the exit code.
-/
namespace Reckon.Service.Launch

/-- How a start goes: whether a language model is configured, and what goes wrong, if
anything does. -/
structure Start where
  hasModel : Bool
  loadError : Option (List Char) := none
  runError : Option (List Char) := none

/-- What is told, line by line, and the exit code. -/
structure Report where
  lines : List (List Char)
  exitCode : Nat

def port : String := "8888"

/-- A line across the screen. -/
def ruler : List Char := List.replicate 60 '='

def greeting : List (List Char) := ["Starting AllCalc Web Portal...".toList, []]

/-- What is told if parts of the program cannot be loaded. -/
def loadFailed (reason : List Char) : List (List Char) := [
  "Error importing modules: ".toList ++ reason,
  [],
  "Make sure you have installed the required dependencies:".toList,
  "  pip install -e .".toList]

/-- What is told if there is no language model. -/
def noModel : List (List Char) := [
  "LLM_BASE_URL / LLM_MODEL not set: teacher mode and automatic".toList,
  "mode switching fall back to plain evaluation.".toList,
  []]

def address : List (List Char) :=
  [ruler, ("AllCalc is live on http://localhost:" ++ port).toList, ruler]

/-- What is told if the service cannot be run. -/
def runFailed (reason : List Char) : List (List Char) := [
  "Error starting server: ".toList ++ reason,
  [],
  "Troubleshooting:".toList,
  "1. Check if another application is using the port".toList,
  ("2. Set ALLCALC_PORT to a free port (current: " ++ port ++ ")").toList]

/-- What is told about a start. -/
def report (s : Start) : Report :=
  match s.loadError with
  | some reason => ⟨greeting ++ loadFailed reason, 1⟩
  | none =>
    let started := greeting ++ (if s.hasModel then [] else noModel) ++ address
    match s.runError with
    | none => ⟨started, 0⟩
    | some reason => ⟨started ++ runFailed reason, 1⟩

/-- The text of a report, each line closed by a line end. -/
def Report.text (r : Report) : List Char := r.lines.flatMap (· ++ ['\n'])

end Reckon.Service.Launch
