import Timex.Proofs.Yaml.Node
import Timex.Yaml.Document.Reading

/-!
# Documents that are not UTF-8

Octets that are not UTF-8 are no document, however far their text is read. A short text is
decoded as a whole before any of it is read, so that nothing else is found wrong with it.
-/

namespace Timex.Yaml
namespace Stream

/-- The text of octets that are not UTF-8 breaks off. -/
theorem stop_decoded {octets : List Nat} (h : Text.Utf8.decode? octets = none) :
    (decoded octets).stop = some .notUtf8 := by
  unfold Text.Utf8.decode? at h
  unfold decoded
  split at h
  · cases h
  · split
    · simp_all
    · rfl

theorem isSome_stop {octets : List Nat} (h : Text.Utf8.decode? octets = none) :
    (ofOctets octets).stop.isSome := by
  have hd := stop_decoded h
  have hc : (decoded octets).checked.stop.isSome := by
    unfold checked
    split
    · rfl
    · simp [hd]
  unfold ofOctets withoutMark
  split
  · split <;> exact hc
  · exact hc

theorem length_decodeFront_le (octets : List Nat) :
    (Text.Utf8.decodeFront octets).1.length ≤ octets.length := by
  fun_induction Text.Utf8.decodeFront octets with
  | case1 => exact Nat.le_refl _
  | case2 => exact Nat.zero_le _
  | case3 a rest c left hc t bad ht ih =>
    have := Text.Utf8.length_of_decodeChar? hc
    simp only [ht, List.length_cons] at ih ⊢
    omega

theorem length_unifyBreaks_le (t : Text) : (unifyBreaks t).length ≤ t.length := by
  fun_induction unifyBreaks t with
  | case1 t ih =>
    simp only [List.length_cons]
    omega
  | case2 c t _ ih =>
    simp only [List.length_cons]
    omega
  | case3 => exact Nat.le_refl _

/-- Nothing of a short text is read before it has been decoded as a whole. -/
theorem ofOctets_of_short {octets : List Nat} (h : Text.Utf8.decode? octets = none)
    (hl : octets.length < 2 * pieceLength) : ofOctets octets = ⟨[], some .notUtf8⟩ := by
  have hd : (decoded octets).text = [] := by
    unfold decoded
    split
    · simp_all [Text.Utf8.decode?]
    · rename_i t bad _ hb
      extract_lets blocks front text
      have hf : front.length ≤ octets.length := by
        simp only [front]
        split
        · simpa [hb] using length_decodeFront_le octets
        · exact Nat.le_trans (length_decodeFront_le _) (List.length_take_le' _ _)
      have ht : text.length < 2 * pieceLength := by
        have := length_unifyBreaks_le front
        simp only [text]
        omega
      rw [lengthBefore, if_pos ht, List.take_zero]
  have he : decoded octets = ⟨[], some .notUtf8⟩ := by
    rw [← hd, ← stop_decoded h]
  rw [ofOctets, he]
  rfl

end Stream

namespace Document

/-- The text breaks off, its tokens end with a failure, and no graph comes of them. -/
theorem exists_ofOctets_eq_error {octets : List Nat} (h : Text.Utf8.decode? octets = none) :
    ∃ e, ofOctets octets = .error e := by
  obtain ⟨stop, hs⟩ := Option.isSome_iff_exists.mp (Stream.isSome_stop h)
  have hb := Token.broken_ofText (Stream.ofOctets octets).text stop
  rw [← hs] at hb
  obtain ⟨e, he⟩ := Graph.exists_ofTokens_eq_error hb
  refine ⟨e, ?_⟩
  unfold ofOctets
  dsimp only
  rw [he]
  rfl

theorem ofOctets_of_short {octets : List Nat} (h : Text.Utf8.decode? octets = none)
    (hl : octets.length < 2 * Stream.pieceLength) : ofOctets octets = .error .notUtf8 := by
  unfold ofOctets
  rw [Stream.ofOctets_of_short h hl]
  rfl

end Document
end Timex.Yaml
