import SelfBuild.Proofs.Drafting.Fences
import SelfBuild.Proofs.Drafting.Verdict

/-!
# Drafts with nothing to show

A reply that fails is answered by a program, and a text that is brought is a draft once its fences are
removed.  That leaves nothing to show only of a text that is all fences and blanks, which counts as a text
when it is brought.
-/

namespace SelfBuild

namespace Drafting

variable {nesting : Json.Nesting} {limits : Json.Limits} {settings : Settings} {reply : Reply}

/-- A reply brings fences and blanks and nothing else. -/
def Reply.IsHollow (nesting : Json.Nesting) (reply : Reply) : Prop :=
  ∃ text, reply.Brings nesting text ∧ Hollow text.toList

/-- Some character of a text is not blank. -/
def Shows (text : WideText) : Prop :=
  ∃ c ∈ text.toList, Text.isBlank c = false

theorem shows_iff {text : WideText} : Shows text ↔ Text.allBlank text.toList = false := by
  simp [Shows, Text.allBlank]

theorem Reply.Brings.isHollow_iff {text : WideText} (h : reply.Brings nesting text) :
    reply.IsHollow nesting ↔ Hollow text.toList := by
  constructor
  · rintro ⟨other, hother, hhollow⟩
    exact h.unique hother ▸ hhollow
  · exact fun hhollow => ⟨text, h, hhollow⟩

/-- Of wide texts, only the empty one has nothing to be seen. -/
theorem eq_empty_of_toList_eq_nil {text : WideText} (h : text.toList = []) : text = .plain "" := by
  have hpoints : text.points = [] := List.map_eq_nil_iff.1 (text.map_seen_points.trans h)
  exact WideText.points_injective hpoints

theorem draft_of_isHollow (hkey : settings.apiKey.isPresent = true) (h : reply.IsHollow limits.reply)
    (description : WideText) (console : Bool) :
    (draft limits settings description console reply).result = .ok "" := by
  obtain ⟨text, hbrings, hhollow⟩ := h
  rcases stripFences_cases text.toList with ⟨-, hnil⟩ | ⟨hnot, -⟩
  · have hempty : codeOf text = .plain "" :=
      eq_empty_of_toList_eq_nil ((toList_codeOf text).trans hnil)
    rw [draft_of_brings hkey hbrings, hempty]
  · exact absurd hhollow hnot

theorem shows_fallbackProgram : Shows fallbackProgram :=
  shows_iff.2 (by decide +kernel)

/-- With a key, a draft shows something unless the reply is all fences and blanks, which makes an empty
draft, or nested too deeply, which makes none. -/
theorem draft_shows_iff (limits : Json.Limits) (hkey : settings.apiKey.isPresent = true)
    (description : WideText) (console : Bool) (reply : Reply) :
    let result := (draft limits settings description console reply).result
    ((∃ program, result = .ok program ∧ Shows program) ↔
        ¬ reply.IsHollow limits.reply ∧ ¬ reply.TooDeep limits.reply) ∧
      (reply.IsHollow limits.reply → result = .ok "") ∧
      (reply.TooDeep limits.reply → ∀ program, result ≠ .ok program) := by
  intro result
  rcases reply.cases limits.reply with ⟨text, hbrings⟩ | hfails | hdeep
  · have hnot := hbrings.not_tooDeep
    have hresult : result = .ok (codeOf text) := draft_of_brings hkey hbrings
    refine ⟨?_, fun h => draft_of_isHollow hkey h description console, fun h => absurd h hnot⟩
    rw [hresult, hbrings.isHollow_iff]
    simp only [Except.ok.injEq, exists_eq_left', shows_iff, toList_codeOf, hnot, not_false_eq_true,
      and_true]
    rcases stripFences_cases text.toList with ⟨hhollow, hnil⟩ | ⟨hfull, hshows⟩
    · simp [hhollow, hnil, Text.allBlank]
    · simp [hfull, hshows]
  · have hnot : ¬ reply.IsHollow limits.reply := by
      rintro ⟨text, hbrings, -⟩
      exact hfails.brings_nothing text hbrings
    have hresult : result = .ok fallbackProgram := draft_of_fails hkey hfails
    refine ⟨?_, fun h => absurd h hnot, fun h => absurd h hfails.not_tooDeep⟩
    rw [hresult]
    exact ⟨fun _ => ⟨hnot, hfails.not_tooDeep⟩, fun _ => ⟨_, rfl, shows_fallbackProgram⟩⟩
  · obtain ⟨container, hresult⟩ := draft_of_tooDeep description console hkey hdeep
    have hnone (program : WideText) : result ≠ .ok program := by
      intro hprogram
      cases hresult.symm.trans hprogram
    refine ⟨⟨?_, fun h => absurd hdeep h.2⟩, fun h => draft_of_isHollow hkey h description console,
      fun _ => hnone⟩
    rintro ⟨program, hprogram, -⟩
    exact absurd hprogram (hnone program)

/-- A fence with a tag is dropped, and the program between the fences is shown. -/
theorem draft_shows_of_fenced :
    let settings : Settings := { apiKey := .string "k" }
    let reply := Reply.saying "```cs\nint x;\n```"
    settings.apiKey.isPresent = true ∧ ¬ reply.IsHollow {} ∧ ¬ reply.TooDeep {} ∧
      ∃ program, (draft {} settings "a clock" true reply).result = .ok program ∧ Shows program := by
  intro settings reply
  have hkey : settings.apiKey.isPresent = true := by decide
  have hbrings : reply.Brings {} "```cs\nint x;\n```" := Reply.brings_saying {} (by decide)
  have hhollow : ¬ reply.IsHollow {} := hbrings.isHollow_iff.not.2 (by decide +kernel)
  obtain ⟨hshows, -⟩ := draft_shows_iff {} hkey "a clock" true reply
  exact ⟨hkey, hhollow, hbrings.not_tooDeep, hshows.2 ⟨hhollow, hbrings.not_tooDeep⟩⟩

/-- Two fences around nothing are a text, but the draft made of them has no character. -/
theorem empty_draft_of_fences :
    let settings : Settings := { apiKey := .string "k" }
    let reply := Reply.saying "```\n```"
    settings.apiKey.isPresent = true ∧ reply.Brings {} "```\n```" ∧
      (draft {} settings "a clock" true reply).result = .ok "" ∧ ¬ Shows "" := by
  intro settings reply
  have hkey : settings.apiKey.isPresent = true := by decide
  have hbrings : reply.Brings {} "```\n```" := Reply.brings_saying {} (by decide)
  have hhollow : reply.IsHollow {} := hbrings.isHollow_iff.2 (by decide +kernel)
  exact ⟨hkey, hbrings, draft_of_isHollow hkey hhollow "a clock" true, by simp [Shows]⟩

end Drafting

end SelfBuild
