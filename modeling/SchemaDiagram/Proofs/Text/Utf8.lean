import SchemaDiagram.Text.Utf8

/-!
Bytes and the texts that they stand for. The bytes of a text are read as the text, and no other
bytes are read as one.
-/
namespace SchemaDiagram.Utf8

/-- A first byte and those after it spell a number: in as few bytes as it takes, and no half of a
surrogate pair. -/
inductive Spells : UInt8 → List UInt8 → Nat → Prop where
  | one {b : UInt8} {n : Nat} (hb : b.toNat < 0x80) (hn : n = b.toNat) : Spells b [] n
  | two {b x : UInt8} {n : Nat} (hb : 0xC2 ≤ b.toNat) (hb' : b.toNat < 0xE0)
      (hx : 0x80 ≤ x.toNat) (hx' : x.toNat ≤ 0xBF)
      (hn : n = (b.toNat - 0xC0) * 64 + (x.toNat - 0x80)) : Spells b [x] n
  | three {b x y : UInt8} {n : Nat} (hb : 0xE0 ≤ b.toNat) (hb' : b.toNat < 0xF0)
      (hx : (if b.toNat = 0xE0 then 0xA0 else 0x80) ≤ x.toNat)
      (hx' : x.toNat ≤ if b.toNat = 0xED then 0x9F else 0xBF)
      (hy : 0x80 ≤ y.toNat) (hy' : y.toNat ≤ 0xBF)
      (hn : n = ((b.toNat - 0xE0) * 64 + (x.toNat - 0x80)) * 64 + (y.toNat - 0x80)) :
      Spells b [x, y] n
  | four {b x y z : UInt8} {n : Nat} (hb : 0xF0 ≤ b.toNat) (hb' : b.toNat < 0xF5)
      (hx : (if b.toNat = 0xF0 then 0x90 else 0x80) ≤ x.toNat)
      (hx' : x.toNat ≤ if b.toNat = 0xF4 then 0x8F else 0xBF)
      (hy : 0x80 ≤ y.toNat) (hy' : y.toNat ≤ 0xBF) (hz : 0x80 ≤ z.toNat) (hz' : z.toNat ≤ 0xBF)
      (hn : n = (((b.toNat - 0xF0) * 64 + (x.toNat - 0x80)) * 64 + (y.toNat - 0x80)) * 64
        + (z.toNat - 0x80)) : Spells b [x, y, z] n

variable {t : Text} {c : Char} {b : UInt8} {bs cont : List UInt8}
  {part count low high good position skip n : Nat}

theorem ofNat_eq (h : n = b.toNat) : UInt8.ofNat n = b := by
  rw [h, UInt8.ofNat_toNat]

theorem toNat_ofNat (h : n.isValidChar) : (Char.ofNat n).val.toNat = n := by
  rw [Char.ofNat, dif_pos h]
  rfl

theorem Spells.isValidChar (h : Spells b cont n) : n.isValidChar := by
  cases h with
  | one hb hn | two hb hb' hx hx' hn => exact Or.inl (by omega)
  | three hb hb' hx hx' hy hy' hn =>
    rw [Nat.isValidChar]
    split at hx' <;> split at hx <;> omega
  | four hb hb' hx hx' hy hy' hz hz' hn =>
    rw [Nat.isValidChar]
    split at hx' <;> split at hx <;> omega

/-- The bytes that spell a number are those of its character. -/
theorem Spells.utf8EncodeChar_eq (h : Spells b cont n) :
    String.utf8EncodeChar (Char.ofNat n) = b :: cont := by
  rw [String.utf8EncodeChar, toNat_ofNat h.isValidChar]
  cases h with
  | one hb hn => rw [if_pos (by omega), ofNat_eq hn]
  | @two x _ hb hb' hx hx' hn =>
    rw [if_neg (by omega), if_pos (by omega), ofNat_eq (b := b) (by omega),
      ofNat_eq (b := x) (by omega)]
  | @three x y _ hb hb' hx hx' hy hy' hn =>
    have hlarge : 0x7FF < n := by split at hx <;> omega
    have hx : 0x80 ≤ x.toNat := by split at hx <;> omega
    have hx' : x.toNat ≤ 0xBF := by split at hx' <;> omega
    rw [if_neg (by omega), if_neg (by omega), if_pos (by omega), ofNat_eq (b := b) (by omega),
      ofNat_eq (b := x) (by omega), ofNat_eq (b := y) (by omega)]
  | @four x y z _ hb hb' hx hx' hy hy' hz hz' hn =>
    have hlarge : 0xFFFF < n := by split at hx <;> omega
    have hx : 0x80 ≤ x.toNat := by split at hx <;> omega
    have hx' : x.toNat ≤ 0xBF := by split at hx' <;> omega
    rw [if_neg (by omega), if_neg (by omega), if_neg (by omega), ofNat_eq (b := b) (by omega),
      ofNat_eq (b := x) (by omega), ofNat_eq (b := y) (by omega), ofNat_eq (b := z) (by omega)]

/-- Every character is spelled. -/
theorem exists_spells (c : Char) : ∃ b cont, Spells b cont c.toNat := by
  have hvalid : c.toNat < 0xD800 ∨ 0xDFFF < c.toNat ∧ c.toNat < 0x110000 := c.valid
  generalize c.toNat = n at hvalid
  have hbyte (m : Nat) (hm : m < 256) : ∃ b : UInt8, b.toNat = m :=
    ⟨UInt8.ofNat m, UInt8.toNat_ofNat_of_lt' hm⟩
  obtain h | h | h | h : n < 0x80 ∨ (0x80 ≤ n ∧ n < 0x800) ∨ (0x800 ≤ n ∧ n < 0x10000) ∨
      0x10000 ≤ n := by omega
  · obtain ⟨b, hb⟩ := hbyte n (by omega)
    exact ⟨b, [], .one (by omega) hb.symm⟩
  · obtain ⟨b, hb⟩ := hbyte (0xC0 + n / 64) (by omega)
    obtain ⟨x, hx⟩ := hbyte (0x80 + n % 64) (by omega)
    exact ⟨b, [x], .two (by omega) (by omega) (by omega) (by omega) (by omega)⟩
  · obtain ⟨b, hb⟩ := hbyte (0xE0 + n / 4096) (by omega)
    obtain ⟨x, hx⟩ := hbyte (0x80 + n / 64 % 64) (by omega)
    obtain ⟨y, hy⟩ := hbyte (0x80 + n % 64) (by omega)
    exact ⟨b, [x, y], .three (by omega) (by omega) (by split <;> omega) (by split <;> omega)
      (by omega) (by omega) (by omega)⟩
  · obtain ⟨b, hb⟩ := hbyte (0xF0 + n / 262144) (by omega)
    obtain ⟨x, hx⟩ := hbyte (0x80 + n / 4096 % 64) (by omega)
    obtain ⟨y, hy⟩ := hbyte (0x80 + n / 64 % 64) (by omega)
    obtain ⟨z, hz⟩ := hbyte (0x80 + n % 64) (by omega)
    exact ⟨b, [x, y, z], .four (by omega) (by omega) (by split <;> omega) (by split <;> omega)
      (by omega) (by omega) (by omega) (by omega) (by omega)⟩

theorem finish_zero_eq_ok_iff : finish part low high good 0 bs = .ok c ↔ c = Char.ofNat part := by
  rw [finish, Except.ok.injEq, eq_comm]

theorem finish_succ_eq_ok_iff : finish part low high good (n + 1) bs = .ok c ↔
    ∃ b rest, bs = b :: rest ∧ low ≤ b.toNat ∧ b.toNat ≤ high ∧
      finish (part * 64 + (b.toNat - 0x80)) 0x80 0xBF (good + 1) n rest = .ok c := by
  constructor
  · intro h
    cases bs with
    | nil => cases h
    | cons b rest =>
      rw [finish] at h
      split at h
      · next hb => exact ⟨b, rest, rfl, hb.1, hb.2, h⟩
      · cases h
  · rintro ⟨b, rest, rfl, hlow, hhigh, h⟩
    rw [finish, if_pos ⟨hlow, hhigh⟩, h]

/-- A character is read from the bytes that spell it, whatever follows them. -/
theorem Spells.read (h : Spells b cont n) (rest : List UInt8) : ∃ part low high,
    lead? b.toNat = some (part, cont.length, low, high) ∧
      finish part low high 1 cont.length (cont ++ rest) = .ok (Char.ofNat n) := by
  cases h with
  | one hb hn => exact ⟨_, _, _, by rw [lead?, if_pos hb]; rfl, by rw [hn]; rfl⟩
  | two hb hb' hx hx' hn =>
    have hlead : lead? b.toNat = some (b.toNat - 0xC0, 1, 0x80, 0xBF) := by
      rw [lead?, if_neg (by omega), if_neg (by omega), if_pos hb']
    exact ⟨_, _, _, hlead, finish_succ_eq_ok_iff.mpr ⟨_, rest, rfl, hx, hx',
      finish_zero_eq_ok_iff.mpr (by rw [hn])⟩⟩
  | three hb hb' hx hx' hy hy' hn =>
    have hlead : lead? b.toNat = some (b.toNat - 0xE0, 2, if b.toNat = 0xE0 then 0xA0 else 0x80,
        if b.toNat = 0xED then 0x9F else 0xBF) := by
      rw [lead?, if_neg (by omega), if_neg (by omega), if_neg (by omega), if_pos hb']
    exact ⟨_, _, _, hlead, finish_succ_eq_ok_iff.mpr ⟨_, _, rfl, hx, hx',
      finish_succ_eq_ok_iff.mpr ⟨_, rest, rfl, hy, hy', finish_zero_eq_ok_iff.mpr (by rw [hn])⟩⟩⟩
  | four hb hb' hx hx' hy hy' hz hz' hn =>
    have hlead : lead? b.toNat = some (b.toNat - 0xF0, 3, if b.toNat = 0xF0 then 0x90 else 0x80,
        if b.toNat = 0xF4 then 0x8F else 0xBF) := by
      rw [lead?, if_neg (by omega), if_neg (by omega), if_neg (by omega), if_neg (by omega),
        if_pos hb']
    exact ⟨_, _, _, hlead, finish_succ_eq_ok_iff.mpr ⟨_, _, rfl, hx, hx',
      finish_succ_eq_ok_iff.mpr ⟨_, _, rfl, hy, hy',
        finish_succ_eq_ok_iff.mpr ⟨_, rest, rfl, hz, hz', finish_zero_eq_ok_iff.mpr (by rw [hn])⟩⟩⟩⟩

/-- What is read as a character starts with bytes that spell it. -/
theorem spells_of_read (hlead : lead? b.toNat = some (part, count, low, high))
    (h : finish part low high 1 count bs = .ok c) :
    ∃ cont rest n, bs = cont ++ rest ∧ cont.length = count ∧ Spells b cont n ∧ c = Char.ofNat n := by
  rw [lead?] at hlead
  split at hlead
  · next hb =>
    cases hlead
    exact ⟨[], bs, _, rfl, rfl, .one hb rfl, finish_zero_eq_ok_iff.mp h⟩
  split at hlead
  · cases hlead
  split at hlead
  · simp only [Option.some.injEq, Prod.mk.injEq] at hlead
    obtain ⟨rfl, rfl, rfl, rfl⟩ := hlead
    obtain ⟨x, rest, rfl, hx, hx', h⟩ := finish_succ_eq_ok_iff.mp h
    exact ⟨[x], rest, _, rfl, rfl, .two (by omega) (by omega) hx hx' rfl,
      finish_zero_eq_ok_iff.mp h⟩
  split at hlead
  · simp only [Option.some.injEq, Prod.mk.injEq] at hlead
    obtain ⟨rfl, rfl, rfl, rfl⟩ := hlead
    obtain ⟨x, _, rfl, hx, hx', h⟩ := finish_succ_eq_ok_iff.mp h
    obtain ⟨y, rest, rfl, hy, hy', h⟩ := finish_succ_eq_ok_iff.mp h
    exact ⟨[x, y], rest, _, rfl, rfl, .three (by omega) (by omega) hx hx' hy hy' rfl,
      finish_zero_eq_ok_iff.mp h⟩
  split at hlead
  · simp only [Option.some.injEq, Prod.mk.injEq] at hlead
    obtain ⟨rfl, rfl, rfl, rfl⟩ := hlead
    obtain ⟨x, _, rfl, hx, hx', h⟩ := finish_succ_eq_ok_iff.mp h
    obtain ⟨y, _, rfl, hy, hy', h⟩ := finish_succ_eq_ok_iff.mp h
    obtain ⟨z, rest, rfl, hz, hz', h⟩ := finish_succ_eq_ok_iff.mp h
    exact ⟨[x, y, z], rest, _, rfl, rfl,
      .four (by omega) (by omega) hx hx' hy hy' hz hz' rfl, finish_zero_eq_ok_iff.mp h⟩
  · cases hlead

theorem decodeFrom_skip (position : Nat) (bs rest : List UInt8) :
    decodeFrom position bs.length (bs ++ rest) = decodeFrom (position + bs.length) 0 rest := by
  induction bs generalizing position with
  | nil => rfl
  | cons b bs ih =>
    rw [List.length_cons, List.cons_append, decodeFrom, ih]
    congr 1
    omega

theorem encode_cons (c : Char) (t : Text) : encode (c :: t) = String.utf8EncodeChar c ++ encode t :=
  List.flatMap_cons

theorem decodeFrom_encode (position : Nat) (t : Text) :
    decodeFrom position 0 (encode t) = .ok t := by
  induction t generalizing position with
  | nil => rfl
  | cons c t ih =>
    obtain ⟨b, cont, hspells⟩ := exists_spells c
    obtain ⟨part, low, high, hlead, hfinish⟩ := hspells.read (encode t)
    have hbytes := hspells.utf8EncodeChar_eq
    rw [Char.ofNat_toNat] at hbytes hfinish
    rw [encode_cons, hbytes, List.cons_append, decodeFrom, hlead]
    simp only [hfinish, decodeFrom_skip, ih]
    rfl

theorem drop_eq_encode (h : decodeFrom position skip bs = .ok t) : bs.drop skip = encode t := by
  fun_induction decodeFrom position skip bs generalizing t with
  | case1 position skip =>
    cases h
    exact List.drop_nil
  | case2 position skip b bs ih => exact ih h
  | case3 position b bs hlead => cases h
  | case4 position b bs part count low high hlead c hread ih =>
    obtain ⟨cont, rest, n, rfl, rfl, hspells, rfl⟩ := spells_of_read hlead hread
    cases hrest : decodeFrom (position + 1) cont.length (cont ++ rest) with
    | error fault =>
      rw [hrest] at h
      cases h
    | ok u =>
      rw [hrest] at h
      cases h
      have hdrop := ih hrest
      rw [List.drop_left] at hdrop
      rw [encode_cons, hspells.utf8EncodeChar_eq, ← hdrop]
      rfl
  | case5 position b bs part count low high hlead good flaw hread => cases h

/-- Bytes are read as a text exactly if they are the bytes of the text. -/
theorem decode_eq_ok_iff : decode bs = .ok t ↔ bs = encode t := by
  constructor
  · intro h
    exact drop_eq_encode h
  · rintro rfl
    exact decodeFrom_encode 0 t

end SchemaDiagram.Utf8
