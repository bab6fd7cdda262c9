import Mathlib.Data.List.Basic

/-! # Names made of segments

A name whose segments are joined by dots and hold none tells the segments. -/

namespace WanManager.Text

def dotted (segments : List String) : String := ".".intercalate segments

theorem dotted_inj {a b : List String} (ha : a ≠ []) (hb : b ≠ [])
    (hadot : ∀ s ∈ a, '.' ∉ s.toList) (hbdot : ∀ s ∈ b, '.' ∉ s.toList) :
    dotted a = dotted b ↔ a = b := by
  have hsplit : ∀ {l : List String}, l ≠ [] → (∀ s ∈ l, '.' ∉ s.toList) →
      (dotted l).toList.splitOn '.' = l.map String.toList := by
    intro l hne hdot
    rw [dotted, String.toList_intercalate]
    exact List.splitOn_intercalate '.' (by simpa using hdot) (by simpa using hne)
  refine ⟨fun h => ?_, fun h => h ▸ rfl⟩
  have hchars := congrArg (fun s : String => s.toList.splitOn '.') h
  simp only [hsplit ha hadot, hsplit hb hbdot] at hchars
  exact (List.map_inj_right fun _ _ => String.toList_injective).mp hchars

end WanManager.Text
