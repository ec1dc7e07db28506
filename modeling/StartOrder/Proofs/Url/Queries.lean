import StartOrder.Proofs.Positions
import StartOrder.Url.Address

/-!
# Pairs of queries

A pair that is appended to a query stands behind the pairs that were there, and is read as it was
given, whatever characters it is of (`queryPairs_appendPair`).

The proof goes byte by byte. What is written for a byte is read as the byte whatever is behind it,
and holds neither of the signs that queries and pairs are split at. Both are finite facts about 256
bytes, and everything about texts follows from them by induction.
-/

namespace StartOrder.Url

namespace Form

/-! ## Bytes -/

/-- A byte that is written as its character is the code of the character, which is no sign. -/
theorem char_of_isPlain : ∀ n < 256, isPlain (UInt8.ofNat n) = true →
    String.utf8EncodeChar (Char.ofNat n) = [UInt8.ofNat n] ∧
      Char.ofNat n ≠ '+' ∧ Char.ofNat n ≠ '%' := by
  decide +kernel

/-- Two digits of a byte are read as the byte, and none of them is a plus sign. -/
theorem ofDigits?_upperHex : ∀ n < 256,
    Number.ofDigits? 16 [upperHex (n / 16), upperHex n] = some n ∧
      upperHex (n / 16) ≠ '+' ∧ upperHex n ≠ '+' := by
  decide +kernel

/-- Nothing that is written for a byte is a sign that queries or pairs are split at. -/
theorem notMem_encodeByte : ∀ n < 256,
    '&' ∉ encodeByte (UInt8.ofNat n) ∧ '=' ∉ encodeByte (UInt8.ofNat n) := by
  decide +kernel

theorem decode_cons {c : Char} (hplus : c ≠ '+') (hpercent : c ≠ '%') (cs : List Char) :
    decode (c :: cs) = String.utf8EncodeChar c ++ decode cs := by
  rw [decode, List.map_cons, if_neg hplus, percentDecode]
  · rfl
  · exact fun _ _ _ h _ => hpercent h

theorem decode_percent {c d : Char} (hc : c ≠ '+') (hd : d ≠ '+') {n : Nat}
    (h : Number.ofDigits? 16 [c, d] = some n) (cs : List Char) :
    decode ('%' :: c :: d :: cs) = UInt8.ofNat n :: decode cs := by
  rw [decode, List.map_cons, List.map_cons, List.map_cons, if_neg (by decide), if_neg hc, if_neg hd,
    percentDecode, h]
  rfl

/-- What is written for a byte is read as the byte, whatever is behind it. -/
theorem decode_encodeByte_append (b : UInt8) (cs : List Char) :
    decode (encodeByte b ++ cs) = b :: decode cs := by
  have hb : UInt8.ofNat b.toNat = b := UInt8.ofNat_toNat
  -- a byte is written as its character, as a plus sign, or as two digits
  unfold encodeByte
  split
  · next hplain =>
    obtain ⟨hchar, hplus, hpercent⟩ := char_of_isPlain b.toNat b.toNat_lt (hb.symm ▸ hplain)
    rw [List.singleton_append, decode_cons hplus hpercent, hchar, hb]
    rfl
  · split
    · next hspace =>
      rw [← hb, hspace]
      rfl
    · obtain ⟨hdigits, hhigh, hlow⟩ := ofDigits?_upperHex b.toNat b.toNat_lt
      exact (decode_percent hhigh hlow hdigits cs).trans (by rw [hb])

/-! ## Names and values -/

theorem decode_flatMap_encodeByte (bytes : List UInt8) :
    decode (bytes.flatMap encodeByte) = bytes := by
  induction bytes with
  | nil => rfl
  | cons b bytes ih => rw [List.flatMap_cons, decode_encodeByte_append, ih]

/-- What is written of a text is read as its bytes. -/
theorem decode_encode (cs : List Char) : decode (encode cs) = cs.flatMap String.utf8EncodeChar :=
  decode_flatMap_encodeByte _

theorem notMem_encode (cs : List Char) : '&' ∉ encode cs ∧ '=' ∉ encode cs := by
  have hbyte : ∀ b : UInt8, '&' ∉ encodeByte b ∧ '=' ∉ encodeByte b := by
    intro b
    rw [← UInt8.ofNat_toNat (x := b)]
    exact notMem_encodeByte b.toNat b.toNat_lt
  constructor
  · intro h
    obtain ⟨b, -, hb⟩ := List.mem_flatMap.mp h
    exact (hbyte b).1 hb
  · intro h
    obtain ⟨b, -, hb⟩ := List.mem_flatMap.mp h
    exact (hbyte b).2 hb

/-! ## Pairs -/

variable (query name value : List Char)

/-- A pair as it is written is read as the bytes of its name and its value. -/
theorem pair_encode : pair (encode name ++ '=' :: encode value) =
    (name.flatMap String.utf8EncodeChar, value.flatMap String.utf8EncodeChar) := by
  have hname : '=' ∉ encode name := (notMem_encode name).2
  rw [pair, takeWhile_ne_append hname, dropWhile_ne_append hname, List.tail_cons, decode_encode,
    decode_encode]

/-- A pair as it is written is one part of a query. -/
theorem pairs_encode : pairs (encode name ++ '=' :: encode value) =
    [(name.flatMap String.utf8EncodeChar, value.flatMap String.utf8EncodeChar)] := by
  have hsign : '&' ∉ encode name ++ '=' :: encode value := by
    intro hmem
    rcases List.mem_append.mp hmem with hname | hrest
    · exact (notMem_encode name).1 hname
    · rcases List.mem_cons.mp hrest with heq | hvalue
      · exact absurd heq (by decide)
      · exact (notMem_encode value).1 hvalue
  rw [pairs, List.splitOn_eq_singleton hsign, List.filter_cons_of_pos (by simp), List.filter_nil,
    List.map_singleton, pair_encode]

/-- The parts of two queries with a sign between them are those of both. -/
theorem pairs_join (query' : List Char) :
    pairs (query ++ '&' :: query') = pairs query ++ pairs query' := by
  have hsplit : (query ++ '&' :: query').splitOn '&' = query.splitOn '&' ++ query'.splitOn '&' :=
    List.splitOnP_append_cons query query' (by decide)
  rw [pairs, hsplit, List.filter_append, List.map_append]
  rfl

/-- **A query with one more pair has the pairs that it had, and then that pair.** -/
theorem pairs_append : pairs (append query name value) =
    pairs query ++
      [(name.flatMap String.utf8EncodeChar, value.flatMap String.utf8EncodeChar)] := by
  -- a sign goes before the pair only where something stands before it
  cases query with
  | nil => exact pairs_encode name value
  | cons c query =>
    show pairs ((c :: query) ++ '&' :: (encode name ++ '=' :: encode value)) = _
    rw [pairs_join, pairs_encode]

end Form

/-! ## Addresses -/

/-- The names and values in the query of an address, as bytes. -/
def queryPairs (u : Url) : List (List UInt8 × List UInt8) := Form.pairs (u.query.getD "").toList

/-- **An address with one more pair has the pairs that it had, and then that pair.** -/
theorem queryPairs_appendPair (u : Url) (name value : String) :
    (u.appendPair name value).queryPairs = u.queryPairs ++
      [(name.toList.flatMap String.utf8EncodeChar,
        value.toList.flatMap String.utf8EncodeChar)] := by
  show Form.pairs (String.ofList _).toList = _
  rw [String.toList_ofList, Form.pairs_append]
  rfl

end StartOrder.Url
