import DebugBridge.Text.Composition
import Mathlib.Data.List.Basic

/-!
# Texts without anything to compose

ASCII characters have no parts, are no marks and are not put behind others, so that a text of them
is composed already.
-/

namespace DebugBridge.Text

section Ascii

variable {c : Char} {text : List Char}

theorem takenApart_of_ascii (hc : c.toNat < 128) : takenApart greatestDepth c = [c] := if_pos hc

theorem combiningClass_of_ascii (hc : c.toNat < 128) : combiningClass c = 0 := if_pos hc

theorem composite?_of_ascii (starter : Char) (hc : c.toNat < 128) : composite? starter c = none :=
  if_pos hc

theorem putBehind_of_ascii (hc : c.toNat < 128) (before : List Char) :
    putBehind c before = c :: before := by
  cases before with
  | nil => rfl
  | cons d before => simp [putBehind, combiningClass_of_ascii hc]

theorem foldl_putBehind_of_ascii (htext : ∀ c ∈ text, c.toNat < 128) (before : List Char) :
    text.foldl (fun before c => putBehind c before) before = text.reverse ++ before := by
  induction text generalizing before with
  | nil => rfl
  | cons c text ih =>
      obtain ⟨hc, htext⟩ := List.forall_mem_cons.mp htext
      rw [List.foldl_cons, putBehind_of_ascii hc, ih htext, List.reverse_cons, List.append_assoc,
        List.singleton_append]

theorem composeOnto_of_ascii (htext : ∀ c ∈ text, c.toNat < 128) (starter : Char) :
    composeOnto starter [] text = starter :: text := by
  induction text generalizing starter with
  | nil => rfl
  | cons c text ih =>
      obtain ⟨hc, htext⟩ := List.forall_mem_cons.mp htext
      have hnone : (if ([] : List Char).head?.all fun mark =>
          combiningClass mark < combiningClass c then composite? starter c else none) = none := by
        rw [composite?_of_ascii starter hc, ite_self]
      rw [composeOnto, hnone]
      dsimp only
      rw [if_pos (combiningClass_of_ascii hc), ih htext]
      rfl

theorem composed_of_ascii (htext : ∀ c ∈ text, c.toNat < 128) : composed text = text := by
  have hapart : text.flatMap (takenApart greatestDepth) = text :=
    (List.flatMap_congr fun c hc => takenApart_of_ascii (htext c hc)).trans
      (List.flatMap_singleton' _)
  have horder : inOrder text = text := by
    rw [inOrder, foldl_putBehind_of_ascii htext, List.append_nil, List.reverse_reverse]
  rw [composed, hapart, horder]
  cases text with
  | nil => rfl
  | cons c text =>
      obtain ⟨hc, htext⟩ := List.forall_mem_cons.mp htext
      rw [compose, if_pos (combiningClass_of_ascii hc), composeOnto_of_ascii htext]

end Ascii

end DebugBridge.Text
