import TableLayout.Text.Utf8
import TableLayout.Url.Percent

/-!
# The bytes of a text

A text is given by its bytes, and the bytes in front of one that starts a character are those of a text. Nothing is
decoded where no percent sign stands.
-/

namespace TableLayout.Text

def bytesOf (s : String) : List UInt8 := s.toByteArray.data.toList

theorem bytesOf_append (s t : String) : bytesOf (s ++ t) = bytesOf s ++ bytesOf t := by
  unfold bytesOf
  rw [String.toByteArray_append, ByteArray.toList_data_append]

theorem fromUTF8?_eq_some {bytes : List UInt8} {s : String} :
    String.fromUTF8? ⟨bytes.toArray⟩ = some s ↔ bytesOf s = bytes := by
  unfold String.fromUTF8?
  constructor
  · intro h
    split at h
    · cases h
      rfl
    · cases h
  · rintro rfl
    have hbytes : (⟨(bytesOf s).toArray⟩ : ByteArray) = s.toByteArray := rfl
    rw [hbytes, dif_pos s.isValidUTF8]
    rfl

theorem decodeUtf8_toUTF8 (s : String) : decodeUtf8 s.toUTF8 = .ok s := by
  have h : String.fromUTF8? s.toUTF8 = some s := by
    unfold String.fromUTF8?
    exact dif_pos s.isValidUTF8
  unfold decodeUtf8
  rw [h]

theorem decodeUtf8_eq_ok {bytes : ByteArray} {s : String} : decodeUtf8 bytes = .ok s ↔ bytes = s.toUTF8 := by
  constructor
  · intro h
    unfold decodeUtf8 String.fromUTF8? at h
    by_cases hvalid : bytes.IsValidUTF8
    · rw [dif_pos hvalid] at h
      cases h
      rfl
    · rw [dif_neg hvalid] at h
      cases h
  · rintro rfl
    exact decodeUtf8_toUTF8 s

theorem toUTF8_inj {s t : String} : s.toUTF8 = t.toUTF8 ↔ s = t := by
  rw [← decodeUtf8_eq_ok, decodeUtf8_toUTF8, Except.ok.injEq, eq_comm]

theorem exists_text_of_bytes {s : String} {front rest : List UInt8} {b : UInt8} (hb : b.IsUTF8FirstByte)
    (h : bytesOf s = front ++ b :: rest) : ∃ t, bytesOf t = front := by
  have hsize : s.utf8ByteSize = front.length + (rest.length + 1) := by
    have := congrArg List.length h
    simpa [bytesOf] using this
  have hvalid : (⟨front.length⟩ : String.Pos.Raw).IsValid s := by
    rw [String.Pos.Raw.isValid_iff_isUTF8FirstByte]
    have hlt : (⟨front.length⟩ : String.Pos.Raw) < s.rawEndPos := by
      rw [String.Pos.Raw.lt_iff]
      show front.length < s.utf8ByteSize
      omega
    refine .inr ⟨hlt, ?_⟩
    have hbyte : s.getUTF8Byte ⟨front.length⟩ hlt = (bytesOf s).get ⟨front.length, by simp [h]⟩ := rfl
    rw [hbyte]
    simpa [h] using hb
  obtain ⟨t, t', rfl, hpos⟩ := String.Pos.Raw.isValid_iff_exists_append.mp hvalid
  refine ⟨t, ?_⟩
  rw [bytesOf_append] at h
  have hlength : (bytesOf t).length = front.length := by
    have := congrArg String.Pos.Raw.byteIdx hpos
    simpa [bytesOf] using this.symm
  exact (List.append_inj h hlength).1

/-! ## Percent-encoding -/

theorem toList_loop (bytes : ByteArray) (i : Nat) (r : List UInt8) :
    ByteArray.toList.loop bytes i r = r.reverse ++ bytes.data.toList.drop i := by
  fun_induction ByteArray.toList.loop bytes i r with
  | case1 i r h ih =>
    have hlt : i < bytes.data.toList.length := h
    have hget : bytes.get! i = bytes.data.toList.get ⟨i, hlt⟩ := by
      show bytes.data[i]! = _
      rw [getElem!_pos bytes.data i h]
      rfl
    rw [ih, List.drop_eq_getElem_cons hlt, hget]
    simp
  | case2 i r h =>
    rw [List.drop_eq_nil_of_le (Nat.le_of_not_lt h), List.append_nil]

theorem toList_toUTF8 (s : String) : s.toUTF8.toList = bytesOf s := by
  unfold ByteArray.toList
  rw [toList_loop]
  rfl

theorem decode_of_not_mem {s : List Char} (h : '%' ∉ s) : Percent.decode s = bytesOf (String.ofList s) := by
  induction s with
  | nil => rfl
  | cons c s ih =>
    simp only [List.mem_cons, not_or] at h
    have hdecode : Percent.decode (c :: s) = (String.singleton c).toUTF8.toList ++ Percent.decode s := by
      rw [Percent.decode]
      intro a b rest hc
      exact absurd hc.symm h.1
    have hcons : String.ofList (c :: s) = String.singleton c ++ String.ofList s := by
      rw [← String.toList_inj]
      simp
    rw [hdecode, ih h.2, hcons, bytesOf_append, toList_toUTF8]

end TableLayout.Text
