import Warden.Proofs.JsonRead
import Warden.Proofs.Rounding

/-!
# Numbers with a fraction or an exponent, read back

A numeral (`Numeral`) is the text of a number as the compact writer puts it: integer digits with
no leading zero, then possibly a point and fraction digits, then possibly `e`, a sign and exponent
digits. `number` reads a numeral that has a fraction or an exponent whole, and hands its digits,
as one significand, and its exponent to `fromParts` (`outcome_number_numeral`), which answers
when the parts fit (`PartsFit`): a negative exponent only divides, and a positive one must leave
the product finite. The skipping reader passes over every numeral (`outcome_skipNumber_numeral`).

Integers past 64 bits take the reader's other way: the digits that fit are kept, and the rest
count as a power of ten (`outcome_number_big`).

Some steps of the reader are anonymous blocks of a definition (what follows the integer digits
in `skipNumber`); their lemmas restate the block, which is the same term up to unfolding, and are
used with `exact` rather than rewritten with.
-/

namespace Warden

namespace Json

open Binary64

/-! ## Building the value -/

/-- What `fromParts` needs to answer: a negative exponent, which only divides, or an exponent up to
`308` whose product with the significand stays finite. -/
def PartsFit (significand : Nat) (exponent : Int) : Prop :=
  exponent < 0 ∨
    (0 ≤ exponent ∧ exponent ≤ 308 ∧ ((Binary64.ofNat significand).mul (powTen exponent.natAbs)).isFinite = true)

instance (significand : Nat) (exponent : Int) : Decidable (PartsFit significand exponent) := by
  unfold PartsFit
  infer_instance

section Parts

variable {c : Cursor}

/-- Dividing by powers of ten always answers, whatever the fuel left. -/
theorem outcome_fromParts_go_neg (fuel : Nat) (f : Binary64) {e : Int} (he : e < 0) :
    ∃ w, outcome (fromParts.go fuel f e) c = (.ok w, c) := by
  induction fuel generalizing f e with
  | zero => exact ⟨f, rfl⟩
  | succ fuel ih =>
    rw [fromParts.go]
    split_ifs with h308 hnn hz hnn'
    · omega
    · exact ⟨_, rfl⟩
    · exact ⟨_, rfl⟩
    · omega
    · exact ih _ (by omega)

/-- `fromParts` answers, without moving, when the parts fit. -/
theorem outcome_fromParts (positive : Bool) {significand : Nat} {exponent : Int}
    (h : PartsFit significand exponent) : ∃ w, outcome (fromParts positive significand exponent) c = (.ok w, c) := by
  have hgo : ∃ w, outcome (fromParts.go 10 (Binary64.ofNat significand) exponent) c = (.ok w, c) := by
    rcases h with hneg | ⟨hnn, h308, hfin⟩
    · exact outcome_fromParts_go_neg 10 _ hneg
    · rw [fromParts.go, if_pos (by omega), if_pos hnn]
      dsimp only
      rw [if_pos hfin]
      exact ⟨_, rfl⟩
  obtain ⟨w, hw⟩ := hgo
  rw [fromParts, outcome_bind_ok hw]
  exact ⟨_, rfl⟩

end Parts

/-! ## Exponents -/

/-- Exponent digits are taken while the exponent stays within 32 signed bits. -/
theorem build_of_le (v : Nat) (ds : List UInt8) (h : ds.foldl digitStep v ≤ 2147483647) :
    exponentPart.build v ds = (ds.foldl digitStep v, ds.length, false) := by
  induction ds generalizing v with
  | nil => rfl
  | cons d ds ih =>
    have hstep : ¬ digitStep v d > 2147483647 := by
      have := le_foldl_digitStep (digitStep v d) ds
      rw [List.foldl_cons] at h
      omega
    rw [List.foldl_cons] at h ⊢
    rw [exponentPart.build, ← digitStep, if_neg hstep, ih _ h]
    rfl

/-- The bytes of an exponent as compact text writes it: `e`, a sign, and the digits. -/
def expBytes (pos : Bool) (k : Nat) : List UInt8 := 101 :: (if pos then 43 else 45) :: Text.encodeUtf8 k.repr

/-- What follows some bytes starts no more digits. -/
def EndsDigits (rest : List UInt8) : Prop := ∀ b ∈ rest.head?, isDigitByte b = false

theorem Delimited.endsDigits {more : List UInt8} (h : Delimited more) : EndsDigits more :=
  fun _ hb => (h.head hb).1

theorem takeWhile_digits_ends {ds rest : List UInt8} (hds : ∀ d ∈ ds, isDigitByte d = true) (hrest : EndsDigits rest) :
    (ds ++ rest).takeWhile isDigitByte = ds := by
  induction ds with
  | nil =>
    cases rest with
    | nil => rfl
    | cons b rest' => rw [List.nil_append, List.takeWhile_cons, hrest b (by simp)]; rfl
  | cons d ds ih =>
    rw [List.cons_append, List.takeWhile_cons, hds d List.mem_cons_self, if_pos rfl,
      ih fun x hx => hds x (List.mem_cons_of_mem _ hx)]

section Exponents

variable {c : Cursor} {more : List UInt8}

/-- An exponent is read whole, and the value is built from the significand and the exponent it
adds to `start`. -/
theorem outcome_exponentPart (positive : Bool) (significand : Nat) (start : Int) (pos : Bool) {k : Nat}
    (hlo : -2147483648 ≤ start - k) (hhi : start + k ≤ 2147483647) (hk : k ≤ 2147483647)
    (h : c.rest = expBytes pos k ++ more) (hmore : Delimited more) :
    outcome (exponentPart positive significand start) c =
      outcome (fromParts positive significand (if pos then start + k else start - k))
        (c.advanceBy (expBytes pos k).length) := by
  obtain ⟨d, ds, hds, hd⟩ := encodeUtf8_repr_cons k
  have hdig : ∀ x ∈ ds, isDigitByte x = true := fun x hx => isDigitByte_repr k x (by rw [hds]; exact List.mem_cons_of_mem _ hx)
  have hval : ds.foldl digitStep (d.toNat - 48) = k := by
    have := foldl_digitStep_repr k
    rw [hds, List.foldl_cons] at this
    rwa [show digitStep 0 d = d.toNat - 48 by unfold digitStep; omega] at this
  have hsign : c.advance.rest = (if pos then 43 else 45) :: d :: (ds ++ more) := by
    rw [Cursor.advance_rest, h, expBytes, hds]
    rfl
  have hdigits : c.advance.advance.rest = d :: (ds ++ more) := by
    rw [Cursor.advance_rest, hsign]
    rfl
  have hrest : c.advance.advance.advance.rest = ds ++ more := by
    rw [Cursor.advance_rest, hdigits]
    rfl
  have hlen : (expBytes pos k).length = 3 + ds.length := by
    rw [expBytes, hds]
    simp only [List.length_cons]
    omega
  rw [exponentPart, outcome_bind_ok (outcome_eat c), outcome_bind_ok (outcome_peek _), hsign, hlen,
    Cursor.advanceBy_add]
  -- the sign is read, then the digits after it, whichever the sign
  cases pos <;>
  · simp +decide only [List.head?_cons, ite_true, ite_false]
    rw [outcome_bind_ok (outcome_eat _), outcome_bind_ok (outcome_pure _ _), outcome_bind_ok (outcome_next _),
      hdigits, List.head?_cons]
    dsimp only
    rw [hd, Bool.not_true, if_neg Bool.false_ne_true, outcome_bind_ok (outcome_frontDigits _), hrest,
      takeWhile_digits_ends hdig hmore.endsDigits, build_of_le _ _ (by rw [hval]; exact hk), hval]
    dsimp only
    rw [outcome_bind_ok (outcome_eatN _ _), if_neg Bool.false_ne_true]
    congr 2
    simp only [Bool.false_eq_true, if_false, if_true]
    omega

end Exponents

/-- The bytes of an exponent, if there is one. -/
def exponentBytes : Option (Bool × Nat) → List UInt8
  | none => []
  | some (pos, k) => expBytes pos k

/-- The power of ten an exponent adds, if there is one. -/
def exponentValue : Option (Bool × Nat) → Int
  | none => 0
  | some (pos, k) => if pos then (k : Int) else -(k : Int)

/-- An exponent small enough that the reader keeps it exactly, added to `start`. -/
def ExponentFits (start : Int) : Option (Bool × Nat) → Prop
  | none => True
  | some (_, k) => -2147483648 ≤ start - k ∧ start + k ≤ 2147483647 ∧ k ≤ 2147483647

theorem exponentBytes_ends (exp : Option (Bool × Nat)) {more : List UInt8} (hmore : Delimited more) :
    EndsDigits (exponentBytes exp ++ more) := by
  cases exp with
  | none => exact hmore.endsDigits
  | some pk => intro b hb; simp [exponentBytes, expBytes] at hb; rw [← hb]; rfl

section Fractions

variable {c : Cursor} {more : List UInt8}

/-- A fraction is read whole: its digits are added to the significand, and the exponent after it,
if any, to the power of ten. -/
theorem outcome_fractionPart (positive : Bool) (significand : Nat) (start : Int) {frac : List UInt8}
    (hfrac : ∀ b ∈ frac, isDigitByte b = true) (hne : frac ≠ []) (hsig : frac.foldl digitStep significand ≤ u64Max)
    (exp : Option (Bool × Nat)) (hexp : ExponentFits (start - frac.length) exp)
    (h : c.rest = 46 :: frac ++ exponentBytes exp ++ more) (hmore : Delimited more) :
    outcome (fractionPart positive significand start) c =
      outcome (fromParts positive (frac.foldl digitStep significand) (start - frac.length + exponentValue exp))
        (c.advanceBy (1 + frac.length + (exponentBytes exp).length)) := by
  have hrest : c.advance.rest = frac ++ (exponentBytes exp ++ more) := by
    rw [Cursor.advance_rest, h]
    simp
  have hused : (frac.length == 0) = false := by simpa using hne
  rw [fractionPart, outcome_bind_ok (outcome_eat c), outcome_bind_ok (outcome_frontDigits _), hrest,
    takeWhile_digits_ends hfrac (exponentBytes_ends exp hmore), accumulate_of_le _ _ hsig]
  dsimp only
  rw [outcome_bind_ok (outcome_eatN _ _), if_neg Bool.false_ne_true, if_neg (by simpa using hne),
    outcome_bind_ok (outcome_peek _), Cursor.advanceBy_append _ hrest, Cursor.advanceBy_add, Cursor.advanceBy_add,
    Cursor.advanceBy_one]
  -- after the digits: the end of the number, or an exponent
  cases exp with
  | none =>
    rw [exponentValue, add_zero]
    cases more with
    | nil => rfl
    | cons b more' =>
      obtain ⟨-, -, he, hE⟩ := hmore.head (show b ∈ (b :: more').head? by simp)
      simp only [exponentBytes, List.nil_append, List.head?_cons, he, hE, decide_false, Bool.or_false]
      rfl
  | some pk =>
    obtain ⟨pos, k⟩ := pk
    obtain ⟨hlo, hhi, hk⟩ := hexp
    have hexpRest : (c.advance.advanceBy frac.length).rest = expBytes pos k ++ more := by
      rw [Cursor.advanceBy_append _ hrest]
      rfl
    simp only [exponentBytes, expBytes, List.cons_append, List.head?_cons]
    rw [if_pos (by decide), outcome_exponentPart positive _ _ pos hlo hhi hk hexpRest hmore]
    congr 2
    cases pos <;> simp [exponentValue, sub_eq_add_neg]

end Fractions

/-- A reader run from places where it runs alike runs alike under a map. -/
theorem outcome_map_eq {α β : Type} {r r' : Reader α} {c c' : Cursor} (h : outcome r c = outcome r' c')
    (g : α → β) : outcome (g <$> r) c = outcome (g <$> r') c' := by
  rw [map_eq_pure_bind, map_eq_pure_bind, outcome_bind, outcome_bind, h]

/-- The bytes of a fraction, if there is one: the point and the digits. -/
def fractionBytes : List UInt8 → List UInt8
  | [] => []
  | d :: ds => 46 :: d :: ds

section Numbers

variable {c : Cursor} {more : List UInt8}

/-- After the integer digits, a fraction or an exponent makes the number a binary64 value. -/
theorem outcome_numberTail_float (positive : Bool) (whole : Nat) {frac : List UInt8}
    (hfrac : ∀ b ∈ frac, isDigitByte b = true) (hsig : frac.foldl digitStep whole ≤ u64Max)
    (exp : Option (Bool × Nat)) (hfloat : frac ≠ [] ∨ exp.isSome = true)
    (hexp : ExponentFits (-(frac.length : Int)) exp)
    (h : c.rest = fractionBytes frac ++ exponentBytes exp ++ more) (hmore : Delimited more) :
    outcome (numberTail positive whole) c =
      outcome (Number.float <$> fromParts positive (frac.foldl digitStep whole) (-(frac.length : Int) + exponentValue exp))
        (c.advanceBy (fractionBytes frac ++ exponentBytes exp).length) := by
  rw [numberTail, outcome_bind_ok (outcome_peek c), h]
  cases frac with
  | nil =>
    -- no fraction: the exponent comes right after the integer digits
    obtain ⟨⟨pos, k⟩, rfl⟩ : ∃ pk, exp = some pk := by
      rcases hfloat with h0 | hs
      · exact absurd rfl h0
      · exact Option.isSome_iff_exists.1 hs
    obtain ⟨hlo, hhi, hk⟩ := hexp
    simp only [fractionBytes, exponentBytes, expBytes, List.nil_append, List.cons_append, List.head?_cons]
    rw [if_neg (by decide), if_pos (by decide)]
    refine outcome_map_eq ?_ _
    rw [outcome_exponentPart positive whole 0 pos (by simpa using hlo) (by simpa using hhi) hk (by rw [h]; rfl) hmore]
    cases pos <;> simp [exponentValue, expBytes]
  | cons d ds =>
    simp only [fractionBytes, List.cons_append, List.head?_cons]
    rw [if_pos (by decide)]
    refine outcome_map_eq ?_ _
    rw [outcome_fractionPart positive whole 0 hfrac (List.cons_ne_nil d ds) hsig exp (by simpa using hexp)
      (by rw [h]; rfl) hmore]
    simp only [zero_sub, List.length_cons, List.length_append]
    congr 2
    omega

/-- Integer digits with no leading zero, within 64 bits, are read, and the number goes on after
them. -/
theorem outcome_number_whole (positive : Bool) {whole rest : List UInt8} (hds : ∀ d ∈ whole, isDigitByte d = true)
    (hne : whole ≠ []) (hlead : whole.head? = some 48 → whole = [48]) (hv : whole.foldl digitStep 0 ≤ u64Max)
    (h : c.rest = whole ++ rest) (hrest : EndsDigits rest) :
    outcome (number positive) c = outcome (numberTail positive (whole.foldl digitStep 0)) (c.advanceBy whole.length) := by
  obtain ⟨d, ds, rfl⟩ := List.exists_cons_of_ne_nil hne
  have hnext : c.advance.rest = ds ++ rest := by rw [Cursor.advance_rest, h]; rfl
  rw [number, outcome_bind_ok (outcome_next c), h, List.cons_append, List.head?_cons]
  dsimp only
  by_cases h0 : d = byte '0'
  · -- a lone zero
    obtain rfl : ds = [] := by
      have := hlead (by rw [h0]; rfl)
      simp only [List.cons.injEq] at this
      exact this.2
    rw [if_pos h0, outcome_bind_ok (outcome_peek _), hnext, List.nil_append]
    have hzero : [d].foldl digitStep 0 = 0 := by rw [h0]; rfl
    rw [hzero]
    cases rest with
    | nil => rfl
    | cons b rest' =>
      rw [List.head?_cons]
      dsimp only
      rw [if_neg (by rw [hrest b (by simp)]; decide)]
      rfl
  · -- a nonzero first digit, and the digits after it
    rw [if_neg h0, if_pos (hds d List.mem_cons_self), outcome_bind_ok (outcome_frontDigits _), hnext,
      takeWhile_digits_ends (fun x hx => hds x (List.mem_cons_of_mem _ hx)) hrest]
    rw [List.foldl_cons] at hv ⊢
    have hacc := accumulate_of_le (d.toNat - 48) ds (by rwa [show digitStep 0 d = d.toNat - 48 by
      unfold digitStep; omega] at hv)
    rw [show digitStep 0 d = d.toNat - 48 by unfold digitStep; omega]
    simp only [hacc]
    rw [outcome_bind_ok (outcome_eatN _ _)]
    simp only [Bool.false_eq_true, if_false]
    rw [List.length_cons, Cursor.advanceBy_succ]

end Numbers

/-! ## Numerals -/

/-- A number as compact text writes it: integer digits with no leading zero (a lone zero apart),
then, if any, a point and fraction digits, then, if any, `e`, a sign and exponent digits. -/
structure Numeral where
  whole : List UInt8
  frac : List UInt8
  exp : Option (Bool × Nat)
  whole_digits : ∀ b ∈ whole, isDigitByte b = true
  whole_ne : whole ≠ []
  whole_lead : whole.head? = some 48 → whole = [48]
  frac_digits : ∀ b ∈ frac, isDigitByte b = true

namespace Numeral

variable (n : Numeral)

/-- The bytes of a numeral. -/
def bytes : List UInt8 := n.whole ++ fractionBytes n.frac ++ exponentBytes n.exp

/-- All the digits of a numeral, read as one number. -/
def significand : Nat := (n.whole ++ n.frac).foldl digitStep 0

/-- The power of ten of a numeral's last digit. -/
def exponent : Int := -(n.frac.length : Int) + exponentValue n.exp

/-- What follows the integer digits starts no more digits. -/
theorem endsDigits_tail (frac : List UInt8) (exp : Option (Bool × Nat)) {more : List UInt8} (hmore : Delimited more) :
    EndsDigits (fractionBytes frac ++ exponentBytes exp ++ more) := by
  cases frac with
  | nil => exact exponentBytes_ends exp hmore
  | cons d ds => intro b hb; simp [fractionBytes] at hb; rw [← hb]; rfl

end Numeral

section Numerals

variable {c : Cursor} {more : List UInt8}

/-- **Numerals read.** A numeral with a fraction or an exponent, whose digits stay within 64 bits
and whose exponent within 32, is read whole, as the binary64 value `fromParts` builds from its
significand and exponent. -/
theorem outcome_number_numeral (positive : Bool) (n : Numeral) (hfloat : n.frac ≠ [] ∨ n.exp.isSome = true)
    (hsig : n.significand ≤ u64Max) (hexp : ExponentFits (-(n.frac.length : Int)) n.exp)
    (h : c.rest = n.bytes ++ more) (hmore : Delimited more) :
    outcome (number positive) c =
      outcome (Number.float <$> fromParts positive n.significand n.exponent) (c.advanceBy n.bytes.length) := by
  rw [Numeral.significand, List.foldl_append] at hsig
  have hwhole : n.whole.foldl digitStep 0 ≤ u64Max := le_trans (le_foldl_digitStep _ n.frac) hsig
  have htail : (c.advanceBy n.whole.length).rest = fractionBytes n.frac ++ exponentBytes n.exp ++ more := by
    rw [Cursor.advanceBy_rest, h, Numeral.bytes]
    simp [List.append_assoc]
  have hsplit : c.rest = n.whole ++ (fractionBytes n.frac ++ exponentBytes n.exp ++ more) := by
    rw [h, Numeral.bytes]
    simp [List.append_assoc]
  rw [outcome_number_whole positive n.whole_digits n.whole_ne n.whole_lead hwhole hsplit
      (Numeral.endsDigits_tail n.frac n.exp hmore),
    outcome_numberTail_float positive _ n.frac_digits hsig n.exp hfloat hexp htail hmore, Numeral.significand,
    List.foldl_append, ← Cursor.advanceBy_add, Numeral.bytes, Numeral.exponent]
  simp [List.append_assoc]

/-- A numeral whose parts fit is read as a binary64 value, right up to its end. -/
theorem outcome_number_float (positive : Bool) (n : Numeral) (hfloat : n.frac ≠ [] ∨ n.exp.isSome = true)
    (hsig : n.significand ≤ u64Max) (hexp : ExponentFits (-(n.frac.length : Int)) n.exp)
    (hfit : PartsFit n.significand n.exponent) (h : c.rest = n.bytes ++ more) (hmore : Delimited more) :
    ∃ w, outcome (number positive) c = (.ok (.float w), c.advanceBy n.bytes.length) := by
  obtain ⟨w, hw⟩ := outcome_fromParts positive (c := c.advanceBy n.bytes.length) hfit
  exact ⟨w, by rw [outcome_number_numeral positive n hfloat hsig hexp h hmore, outcome_map_ok hw]⟩

/-- An exponent is passed over: its `e`, its sign and its digits. -/
theorem outcome_skipExponent (pos : Bool) (k : Nat) (h : c.rest = expBytes pos k ++ more) (hmore : Delimited more) :
    outcome skipExponent c = (.ok (), c.advanceBy (expBytes pos k).length) := by
  obtain ⟨d, ds, hds, hd⟩ := encodeUtf8_repr_cons k
  have hdig : ∀ x ∈ ds, isDigitByte x = true := fun x hx => isDigitByte_repr k x (by rw [hds]; exact List.mem_cons_of_mem _ hx)
  have hsign : c.advance.rest = (if pos then 43 else 45) :: d :: (ds ++ more) := by
    rw [Cursor.advance_rest, h, expBytes, hds]
    rfl
  have hdigits : c.advance.advance.rest = d :: (ds ++ more) := by
    rw [Cursor.advance_rest, hsign]
    rfl
  have hrest : c.advance.advance.advance.rest = ds ++ more := by
    rw [Cursor.advance_rest, hdigits]
    rfl
  have hlen : (expBytes pos k).length = 3 + ds.length := by
    rw [expBytes, hds]
    simp only [List.length_cons]
    omega
  rw [skipExponent, outcome_bind_ok (outcome_eat c), outcome_bind_ok (outcome_peek _), hsign, hlen,
    Cursor.advanceBy_add]
  cases pos <;>
  · simp +decide only [List.head?_cons, ite_true, ite_false]
    rw [outcome_bind_ok (outcome_eat _), outcome_bind_ok (outcome_peek _), hdigits, List.head?_cons]
    dsimp only
    rw [outcome_bind_ok (outcome_eat _), if_pos hd, outcome_bind_ok (outcome_frontDigits _), hrest,
      takeWhile_digits_ends hdig hmore.endsDigits, outcome_eatN]
    rfl

/-- After the integer digits, `skipNumber` passes over a fraction and an exponent. -/
theorem outcome_skipNumber_tail {frac : List UInt8} (hfrac : ∀ b ∈ frac, isDigitByte b = true)
    (exp : Option (Bool × Nat)) (h : c.rest = fractionBytes frac ++ exponentBytes exp ++ more) (hmore : Delimited more) :
    outcome (do
      match ← peek with
      | some b =>
        if b = byte '.' then
          eat
          let ds ← frontDigits
          if ds.isEmpty then failAhead .invalidNumber
          else
            eatN ds.length
            match ← peek with
            | some c => if c = byte 'e' || c = byte 'E' then skipExponent else pure ()
            | none => pure ()
        else if b = byte 'e' || b = byte 'E' then skipExponent
        else pure ()
      | none => pure () : Reader Unit) c = (.ok (), c.advanceBy (fractionBytes frac ++ exponentBytes exp).length) := by
  -- after the digits of a part: an exponent, or a delimiter that ends the number
  have hafter : ∀ c' : Cursor, c'.rest = exponentBytes exp ++ more →
      outcome (do
        match ← peek with
        | some c => if c = byte 'e' || c = byte 'E' then skipExponent else pure ()
        | none => pure () : Reader Unit) c' = (.ok (), c'.advanceBy (exponentBytes exp).length) := by
    intro c' hc'
    rw [outcome_bind_ok (outcome_peek _), hc']
    cases exp with
    | none =>
      cases more with
      | nil => rfl
      | cons b more' =>
        obtain ⟨-, -, he, hE⟩ := hmore.head (show b ∈ (b :: more').head? by simp)
        simp only [exponentBytes, List.nil_append, List.head?_cons, he, hE, decide_false, Bool.or_false]
        rfl
    | some pk =>
      obtain ⟨pos, k⟩ := pk
      simp only [exponentBytes, expBytes, List.cons_append, List.head?_cons]
      rw [if_pos (by decide)]
      exact outcome_skipExponent pos k (by rw [hc']; rfl) hmore
  rw [outcome_bind_ok (outcome_peek c), h]
  cases frac with
  | nil =>
    cases exp with
    | none =>
      cases more with
      | nil => rfl
      | cons b more' =>
        obtain ⟨-, hdot, he, hE⟩ := hmore.head (show b ∈ (b :: more').head? by simp)
        simp only [fractionBytes, exponentBytes, List.nil_append, List.head?_cons, if_neg hdot, he, hE, decide_false,
          Bool.or_false]
        rfl
    | some pk =>
      obtain ⟨pos, k⟩ := pk
      simp only [fractionBytes, exponentBytes, expBytes, List.nil_append, List.cons_append, List.head?_cons]
      rw [if_neg (by decide), if_pos (by decide)]
      exact outcome_skipExponent pos k (by rw [h]; rfl) hmore
  | cons d ds =>
    have hrest : c.advance.rest = (d :: ds) ++ (exponentBytes exp ++ more) := by
      rw [Cursor.advance_rest, h]
      simp [fractionBytes]
    simp only [fractionBytes, List.cons_append, List.head?_cons]
    rw [if_pos (by decide), outcome_bind_ok (outcome_eat c), outcome_bind_ok (outcome_frontDigits _), hrest,
      takeWhile_digits_ends hfrac (exponentBytes_ends exp hmore)]
    simp only [List.isEmpty_cons, Bool.false_eq_true, if_false]
    rw [outcome_bind_ok (outcome_eatN _ _), hafter _ (Cursor.advanceBy_append _ hrest), ← Cursor.advanceBy_add,
      ← Cursor.advanceBy_one, ← Cursor.advanceBy_add]
    simp only [List.length_cons, List.length_append]
    congr 2
    omega

/-- **Numerals skipped.** The skipping reader passes over every numeral. -/
theorem outcome_skipNumber_numeral (n : Numeral) (h : c.rest = n.bytes ++ more) (hmore : Delimited more) :
    outcome skipNumber c = (.ok (), c.advanceBy n.bytes.length) := by
  obtain ⟨d, ds, hwhole⟩ := List.exists_cons_of_ne_nil n.whole_ne
  have hd := n.whole_digits d (by rw [hwhole]; exact List.mem_cons_self)
  have hds : ∀ x ∈ ds, isDigitByte x = true := fun x hx => n.whole_digits x (by rw [hwhole]; exact List.mem_cons_of_mem _ hx)
  have hc : c.rest = d :: (ds ++ (fractionBytes n.frac ++ exponentBytes n.exp ++ more)) := by
    rw [h, Numeral.bytes, hwhole]
    simp [List.append_assoc]
  have hnext : c.advance.rest = ds ++ (fractionBytes n.frac ++ exponentBytes n.exp ++ more) := by
    rw [Cursor.advance_rest, hc]
    rfl
  have hlen : n.bytes.length = 1 + ds.length + (fractionBytes n.frac ++ exponentBytes n.exp).length := by
    rw [Numeral.bytes, hwhole]
    simp only [List.length_append, List.length_cons]
    omega
  have htail := Numeral.endsDigits_tail n.frac n.exp hmore
  rw [skipNumber, outcome_bind_ok (outcome_peek c), hc, List.head?_cons]
  dsimp only
  rw [outcome_bind_ok (outcome_eat c), hlen, Cursor.advanceBy_add, Cursor.advanceBy_add, Cursor.advanceBy_one]
  by_cases h0 : d = byte '0'
  · -- a lone zero, which no digit follows
    obtain rfl : ds = [] := by
      have := n.whole_lead (by rw [hwhole, h0]; rfl)
      rw [hwhole] at this
      simp only [List.cons.injEq] at this
      exact this.2
    rw [List.nil_append] at hnext
    rw [if_pos h0, outcome_bind, outcome_peek, hnext, List.length_nil, Cursor.advanceBy_zero]
    dsimp only
    cases hfirst : (fractionBytes n.frac ++ exponentBytes n.exp ++ more) with
    | nil => exact outcome_skipNumber_tail n.frac_digits n.exp hnext hmore
    | cons b rest =>
      have hb : isDigitByte b = false := htail b (by rw [hfirst]; rfl)
      simp only [List.head?_cons, hb, Bool.false_eq_true, if_false]
      exact outcome_skipNumber_tail n.frac_digits n.exp hnext hmore
  · -- a nonzero first digit, and the digits after it
    rw [if_neg h0, if_pos hd, outcome_bind_ok (outcome_frontDigits _), hnext, takeWhile_digits_ends hds htail,
      outcome_bind_ok (outcome_eatN _ _)]
    exact outcome_skipNumber_tail n.frac_digits n.exp (Cursor.advanceBy_append _ hnext) hmore

/-- The digits of a natural number, a numeral with no fraction and no exponent. -/
def reprNumeral (m : Nat) : Numeral where
  whole := Text.encodeUtf8 m.repr
  frac := []
  exp := none
  whole_digits := isDigitByte_repr m
  whole_ne := encodeUtf8_repr_ne_nil m
  whole_lead := repr_head m
  frac_digits := fun _ h => absurd h List.not_mem_nil

theorem reprNumeral_bytes (m : Nat) : (reprNumeral m).bytes = Text.encodeUtf8 m.repr := by
  simp only [Numeral.bytes, reprNumeral, fractionBytes, exponentBytes, List.append_nil]

/-- The digits of a natural number are passed over. -/
theorem outcome_skipNumber_repr (m : Nat) (h : c.rest = Text.encodeUtf8 m.repr ++ more) (hmore : Delimited more) :
    outcome skipNumber c = (.ok (), c.advanceBy (Text.encodeUtf8 m.repr).length) := by
  rw [← reprNumeral_bytes] at h ⊢
  exact outcome_skipNumber_numeral (reprNumeral m) h hmore

end Numerals

/-! ## Integers past 64 bits -/

/-- Digits that pass 64 bits: the first `j` are taken, and the next would overflow. -/
theorem accumulate_eq_overflow {sig : Nat} (hsig : sig ≤ u64Max) (ds : List UInt8)
    (h : u64Max < ds.foldl digitStep sig) :
    ∃ j < ds.length, accumulate sig ds = ((ds.take j).foldl digitStep sig, j, true) := by
  induction ds generalizing sig with
  | nil => exact absurd h (by rw [List.foldl_nil]; omega)
  | cons d ds ih =>
    rw [List.foldl_cons] at h
    rw [accumulate, ← digitStep]
    split
    · exact ⟨0, by simp, rfl⟩
    · next hle =>
      obtain ⟨j, hj, hacc⟩ := ih (by omega) h
      refine ⟨j + 1, by simp only [List.length_cons]; omega, ?_⟩
      rw [hacc]
      simp [List.take_succ_cons]

/-- Each digit after a value multiplies it by ten at least. -/
theorem mul_pow_le_foldl_digitStep (sig : Nat) (ds : List UInt8) : sig * 10 ^ ds.length ≤ ds.foldl digitStep sig := by
  induction ds generalizing sig with
  | nil => simp
  | cons d ds ih =>
    rw [List.foldl_cons, List.length_cons, Nat.pow_succ]
    calc sig * (10 ^ ds.length * 10) = sig * 10 * 10 ^ ds.length := by ring
      _ ≤ digitStep sig d * 10 ^ ds.length := Nat.mul_le_mul_right _ (by unfold digitStep; omega)
      _ ≤ ds.foldl digitStep (digitStep sig d) := ih _

section Big

variable {c : Cursor} {more : List UInt8}

/-- **Integers past 64 bits.** Digits worth more than 64 bits and at most `2^1024 - 6 · 2^970` are
read whole as a binary64 value: the digits that fit, scaled by the power of ten the others count. -/
theorem outcome_number_big (positive : Bool) {k : Nat} (hk : u64Max < k) (hlim : (k : ℚ) ≤ 2 ^ 1024 - 6 * 2 ^ 970)
    (h : c.rest = Text.encodeUtf8 k.repr ++ more) (hmore : Delimited more) :
    ∃ w, outcome (number positive) c = (.ok (.float w), c.advanceBy (Text.encodeUtf8 k.repr).length) := by
  obtain ⟨d, rest, hds, hd⟩ := encodeUtf8_repr_cons k
  have hdig : ∀ x ∈ rest, isDigitByte x = true := fun x hx => isDigitByte_repr k x (by rw [hds]; exact List.mem_cons_of_mem _ hx)
  have hval : rest.foldl digitStep (d.toNat - 48) = k := by
    have := foldl_digitStep_repr k
    rw [hds, List.foldl_cons] at this
    rwa [show digitStep 0 d = d.toNat - 48 by unfold digitStep; omega] at this
  have h0 : d ≠ byte '0' := by
    intro h0
    have := repr_head k (by rw [hds, h0]; rfl)
    rw [hds] at this
    simp only [List.cons.injEq] at this
    rw [this.2, List.foldl_nil, h0] at hval
    rw [← hval] at hk
    exact absurd hk (by decide)
  have hd1 : 1 ≤ d.toNat - 48 := by
    have hd' : 48 ≤ d.toNat ∧ d.toNat ≤ 57 := by simpa [isDigitByte, UInt8.le_iff_toNat_le] using hd
    have : d.toNat ≠ 48 := fun h => h0 (UInt8.toNat_inj.1 (by rw [h]; rfl))
    omega
  obtain ⟨j, hj, hacc⟩ := accumulate_eq_overflow (show d.toNat - 48 ≤ u64Max by
      have := UInt8.toNat_lt d; unfold u64Max; omega) rest
    (by rw [hval]; exact hk)
  have hnext : c.advance.rest = rest ++ more := by rw [Cursor.advance_rest, h, hds]; rfl
  have hdrop : (c.advance.advanceBy j).rest = rest.drop j ++ more := by
    rw [Cursor.advanceBy_rest, hnext, List.drop_append_of_le_length (by omega)]
  -- the digits kept, and the power of ten the others count
  set sig := (rest.take j).foldl digitStep (d.toNat - 48) with hsig
  have hsplit : k = (rest.drop j).foldl digitStep sig := by
    rw [← hval, hsig, ← List.foldl_append, List.take_append_drop]
  have hbound := mul_pow_le_foldl_digitStep sig (rest.drop j)
  rw [← hsplit] at hbound
  have hsig1 : 1 ≤ sig := le_trans hd1 (le_foldl_digitStep _ _)
  have hfit : PartsFit sig ((rest.drop j).length : Int) := by
    have hkq : ((sig * 10 ^ (rest.drop j).length : Nat) : ℚ) ≤ 2 ^ 1024 - 6 * 2 ^ 970 :=
      le_trans (Nat.cast_le.2 hbound) hlim
    -- a power of ten below `2^1024` is at most `10^308`
    have h308 : (rest.drop j).length ≤ 308 := by
      have h970 : (0 : ℚ) < 2 ^ 970 := by positivity
      have hsigq : (1 : ℚ) ≤ sig := by exact_mod_cast hsig1
      have hpow : (10 : ℚ) ^ (rest.drop j).length < 10 ^ 309 := by
        push_cast at hkq
        have hten : (0 : ℚ) ≤ 10 ^ (rest.drop j).length := by positivity
        have htop := two_pow_lt_ten_pow
        have hmul := mul_le_mul_of_nonneg_right hsigq hten
        generalize (2 : ℚ) ^ 1024 = X at hkq htop
        generalize (2 : ℚ) ^ 970 = Y at hkq h970
        generalize (10 : ℚ) ^ 309 = Z at htop ⊢
        linarith
      exact Nat.lt_succ_iff.1 ((pow_lt_pow_iff_right₀ (by norm_num)).1 hpow)
    refine .inr ⟨by omega, by omega, ?_⟩
    rw [Int.natAbs_natCast]
    exact mul_ofRat_isFinite (by omega) (by simp [Nat.pow_eq]) (by push_cast [Nat.pow_eq] at hkq ⊢; exact hkq)
  obtain ⟨w, hw⟩ := outcome_fromParts positive
    (c := (c.advance.advanceBy j).advanceBy (rest.drop j).length) hfit
  refine ⟨w, ?_⟩
  have hdigits : ∀ x ∈ rest.drop j, isDigitByte x = true := fun x hx => hdig x (List.mem_of_mem_drop hx)
  rw [number, outcome_bind_ok (outcome_next c), h, hds, List.cons_append, List.head?_cons]
  dsimp only
  rw [if_neg h0, if_pos hd, outcome_bind_ok (outcome_frontDigits _), hnext, takeWhile_digits hdig hmore, hacc]
  dsimp only
  rw [outcome_bind_ok (outcome_eatN _ _), if_pos rfl, outcome_bind_ok (outcome_frontDigits _), hdrop,
    takeWhile_digits hdigits hmore, outcome_bind_ok (outcome_eatN _ _), outcome_bind_ok (outcome_peek _),
    Cursor.advanceBy_append _ hdrop]
  -- a delimiter follows, so the value is built from the parts
  have hend : outcome (Number.float <$> fromParts positive sig ((rest.drop j).length : Int))
      ((c.advance.advanceBy j).advanceBy (rest.drop j).length) =
      (.ok (.float w), c.advanceBy (d :: rest).length) := by
    rw [outcome_map_ok hw, List.length_cons, Cursor.advanceBy_succ, ← Cursor.advanceBy_add, List.length_drop,
      Nat.add_sub_cancel' hj.le]
  cases more with
  | nil => exact hend
  | cons b more' =>
    obtain ⟨-, hdot, he, hE⟩ := hmore.head (show b ∈ (b :: more').head? by simp)
    simp only [List.head?_cons, if_neg hdot, he, hE, decide_false, Bool.or_false, Bool.false_eq_true, if_false]
    exact hend

end Big

end Json

end Warden
