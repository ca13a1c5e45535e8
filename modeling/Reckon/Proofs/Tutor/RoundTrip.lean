import Reckon.Proofs.Tutor.Extraction
import Reckon.Tutor.Solution

/-
A solution survives the trip through a reply. It is printed as an object of plain texts, which
is read back from the printed text wherever that stands (`Reply.object?_eq_some`): whatever the
texts hold, fences and braces included, is inside the object. What is left is to find the parts
of the solution among the members of that object again.
-/
namespace Reckon.Tutor
open Json

/-- A text inside a fence with a language tag, each on lines of their own. -/
def Reply.fenced (tag s : List Char) : List Char :=
  fence ++ (tag ++ ['\n']) ++ (s ++ '\n' :: fence)

theorem asText_text (s : List Char) : (Json.text s).asText = s := by
  simp [Json.text, asText]

theorem isPlain_text (s : List Char) : IsPlain (.text s) := by
  simp [Json.text, IsPlain]

namespace SolutionStep

theorem isPlain_toJson (s : SolutionStep) : IsPlain s.toJson := by
  simp [toJson, IsPlain, MembersPlain, isPlain_text]

theorem allPlain_map_toJson (steps : List SolutionStep) : AllPlain (steps.map toJson) := by
  induction steps with
  | nil => trivial
  | cons s r ih => exact ⟨isPlain_toJson s, ih⟩

theorem ofJson_toJson (s : SolutionStep) : ofJson s.toJson = .ok s := by
  simp [toJson, ofJson, part, find?, asText_text]

theorem mapM_ofJson (steps : List SolutionStep) : (steps.map toJson).mapM ofJson = .ok steps := by
  induction steps with
  | nil => rfl
  | cons s r ih =>
    rw [List.map_cons, List.mapM_cons, ofJson_toJson, ih]
    rfl

end SolutionStep

namespace Solution

def members (sol : Solution) : Members :=
  [("steps", .array (sol.steps.map SolutionStep.toJson)), ("finalAnswer", .text sol.finalAnswer)]

theorem isPlain_members (sol : Solution) : IsPlain (.object sol.members) := by
  simp [members, IsPlain, MembersPlain, isPlain_text, SolutionStep.allPlain_map_toJson]

theorem ofMembers_members (sol : Solution) : ofMembers sol.members = .ok sol := by
  have hsteps : find? "steps" sol.members = some (.array (sol.steps.map SolutionStep.toJson)) := rfl
  have hanswer : answerOf sol.members sol.steps = sol.finalAnswer := by
    simp [members, answerOf, find?, Json.text, asText]
  rw [ofMembers, hsteps]
  change (do
    let steps ← (sol.steps.map SolutionStep.toJson).mapM SolutionStep.ofJson
    pure (⟨steps, answerOf sol.members steps⟩ : Solution)) = _
  rw [SolutionStep.mapM_ofJson]
  change Except.ok (⟨sol.steps, answerOf sol.members sol.steps⟩ : Solution) = _
  rw [hanswer]

/-- A printed solution is read wherever it stands with no opening brace in front of it and no
closing brace behind it. -/
theorem ofReply_append {p s : List Char} (hp : '{' ∉ p) (hs : '}' ∉ s) (sol : Solution) :
    ofReply (p ++ (print sol.toJson ++ s)) = .ok sol := by
  have hx : Reply.members? (print sol.toJson) = some sol.members :=
    Reply.members?_print _ sol.isPlain_members
  rw [ofReply, Reply.object?_eq_some hp hx hs]
  exact ofMembers_members sol

/-- A solution is the same after it is printed and read from a reply, whether the reply is its
text alone or that text in a fence, whatever its steps and its answer say. -/
theorem ofReply_print (sol : Solution) :
    ofReply (print sol.toJson) = .ok sol ∧
      ∀ tag, '{' ∉ tag → ofReply (Reply.fenced tag (print sol.toJson)) = .ok sol := by
  refine ⟨?_, fun tag htag => ?_⟩
  · have h := ofReply_append (p := []) (s := []) (by simp) (by simp) sol
    rwa [List.nil_append, List.append_nil] at h
  · refine ofReply_append ?_ (by decide) sol
    simp [Reply.fence, htag]

/-- A step that says an object in a fence, an answer with quotes, a line of its own and a
character outside the first plane. -/
theorem ofReply_print_nested :
    ofReply (Reply.fenced "json".toList (print (toJson
        ⟨[⟨"```json\n\x7b\"steps\": []\x7d\n```".toList, "\x7d\x7b\\u0041".toList, []⟩],
          "\"\n\u2028😀".toList⟩))) =
      .ok ⟨[⟨"```json\n\x7b\"steps\": []\x7d\n```".toList, "\x7d\x7b\\u0041".toList, []⟩],
        "\"\n\u2028😀".toList⟩ :=
  (ofReply_print _).2 _ (by decide)

end Solution

end Reckon.Tutor
