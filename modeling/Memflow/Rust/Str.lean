import Memflow.Rust.Arith

/-!
# Memflow — Rust string slices

The `&str` methods the sources call, over a string as its list of
characters: `split`, `splitn`, `contains`, `ends_with`, `trim_end_matches`,
`to_lowercase`, and the integer parsers `from_str_radix` and `parse`.
Each follows the standard library's documented behaviour; `to_lowercase`
maps the characters whose lowercase holds an ASCII letter and keeps the
others, which the sources, comparing its result with ASCII text only, cannot
tell from their lowercase.

Beside each method stand the facts the parsing proofs use: how `split` and
`splitn` cut a string at a separator the pieces do not contain, that
`trim_end_matches` removes one appended copy of a pattern the rest does not
end with, and that `from_str_radix` reads a numeral to its value when the
value fits.

The last section is the other direction: `{:x}` and `{:X}` formatting of an
unsigned integer, and `fromStrRadix_lowerHex` / `fromStrRadix_upperHex`, which
say that `from_str_radix(_, 16)` reads either back to the value printed.
-/

namespace Memflow.Rust

/-- A Rust `&str`, as its characters. -/
abbrev Str := List Char

namespace Str

/-! ## Splitting -/

/-- `s.split(c)`: the pieces between the occurrences of `c`. -/
def split (c : Char) (s : Str) : List Str := s.splitOn c

/-- The text before the first `c`, and the text after it when `s` has a `c`. -/
def splitOnce (c : Char) : Str → Str × Option Str
  | [] => ([], none)
  | x :: xs => if x = c then ([], some xs) else ((x :: (splitOnce c xs).1), (splitOnce c xs).2)

/-- `s.splitn(n, c)`: at most `n` pieces, the last one the unsplit rest. -/
def splitn : Nat → Char → Str → List Str
  | 0, _, _ => []
  | 1, _, s => [s]
  | k + 2, c, s =>
    match splitOnce c s with
    | (a, none) => [a]
    | (a, some rest) => a :: splitn (k + 1) c rest

theorem split_append_cons {c : Char} {a : Str} (ha : c ∉ a) (b : Str) :
    split c (a ++ c :: b) = a :: split c b :=
  List.splitOnP_first (· == c) a (fun x hx h => ha (beq_iff_eq.1 h ▸ hx)) c (by simp) b

theorem split_of_not_mem {c : Char} {s : Str} (hs : c ∉ s) : split c s = [s] :=
  List.splitOnP_eq_single (· == c) s (fun _ hx h => hs (beq_iff_eq.1 h ▸ hx))

theorem split_intercalate {c : Char} {ls : List Str} (h : ∀ l ∈ ls, c ∉ l) (hne : ls ≠ []) :
    split c ([c].intercalate ls) = ls :=
  List.splitOn_intercalate ls c h hne

theorem splitOnce_append_cons {c : Char} {a : Str} (ha : c ∉ a) (b : Str) :
    splitOnce c (a ++ c :: b) = (a, some b) := by
  induction a with
  | nil => simp [splitOnce]
  | cons x xs ih =>
    simp only [List.mem_cons, not_or] at ha
    simp [splitOnce, Ne.symm ha.1, ih ha.2]

theorem splitOnce_of_not_mem {c : Char} {s : Str} (hs : c ∉ s) : splitOnce c s = (s, none) := by
  induction s with
  | nil => rfl
  | cons x xs ih =>
    simp only [List.mem_cons, not_or] at hs
    simp [splitOnce, Ne.symm hs.1, ih hs.2]

theorem splitn_two_append_cons {c : Char} {a : Str} (ha : c ∉ a) (b : Str) :
    splitn 2 c (a ++ c :: b) = [a, b] := by
  simp [splitn, splitOnce_append_cons ha]

theorem splitn_two_of_not_mem {c : Char} {s : Str} (hs : c ∉ s) : splitn 2 c s = [s] := by
  simp [splitn, splitOnce_of_not_mem hs]

/-! ## Searching -/

/-- `s.contains(p)`. -/
def contains (s p : Str) : Bool := decide (p <:+: s)

/-- `s.ends_with(p)`. -/
def endsWith (s p : Str) : Bool := p.isSuffixOf s

/-- A string contains what an infix of it contains. -/
theorem contains_of_infix {s t p : Str} (h : s <:+: t) (hp : contains s p = true) :
    contains t p = true := by
  simp only [contains, decide_eq_true_eq] at hp ⊢
  exact hp.trans h

/-- A string lacks a pattern that has a character the string lacks. -/
theorem contains_eq_false {s p : Str} {x : Char} (hp : x ∈ p) (hs : x ∉ s) :
    contains s p = false := by
  simpa [contains] using fun h : p <:+: s => hs (h.subset hp)

/-- `s.trim_end_matches(p)`: `s` with every trailing copy of `p` removed.
Each removal shortens `s`, so `s.length` rounds are enough. -/
def trimEndMatches (s p : Str) : Str := go s.length s
where
  go : Nat → Str → Str
    | 0, s => s
    | n + 1, s => if p ≠ [] ∧ p <:+ s then go n (s.take (s.length - p.length)) else s

theorem trimEndMatches.go_of_not_suffix {p s : Str} (h : ¬ p <:+ s) (n : Nat) :
    trimEndMatches.go p n s = s := by
  cases n <;> simp [go, h]

/-- Trimming one appended copy of a pattern the rest does not end with. -/
theorem trimEndMatches_append {s p : Str} (hp : p ≠ []) (hs : ¬ p <:+ s) :
    trimEndMatches (s ++ p) p = s := by
  have hlen : 0 < p.length := List.length_pos.2 hp
  obtain ⟨n, hn⟩ : ∃ n, (s ++ p).length = n + 1 := ⟨s.length + p.length - 1, by simp; omega⟩
  have htake : (s ++ p).take ((s ++ p).length - p.length) = s := by simp
  unfold trimEndMatches
  rw [hn, trimEndMatches.go, if_pos ⟨hp, List.suffix_append s p⟩, htake,
    trimEndMatches.go_of_not_suffix hs]

/-- `c.to_lowercase()` for the characters whose lowercase holds an ASCII
letter: the ASCII capitals, the Kelvin sign `U+212A` (`k`), and `U+0130`
(`i` and a combining dot above). Every other character is kept. Its real
lowercase is one character that is not ASCII, as the kept character is, so
the sources, which compare the lowercase only with ASCII text, cannot tell
the two apart. -/
def lowercaseChar (c : Char) : Str :=
  if c = '\u212A' then ['k'] else if c = '\u0130' then ['i', '\u0307'] else [c.toLower]

/-- `s.to_lowercase()`, character by character. -/
def toLowercase (s : Str) : Str := s.flatMap lowercaseChar

@[simp] theorem toLowercase_append (s t : Str) :
    toLowercase (s ++ t) = toLowercase s ++ toLowercase t := List.flatMap_append ..

/-! ## Integers -/

/-- `c.to_digit(radix)`, for a radix up to 36. -/
def toDigit (radix : Nat) (c : Char) : Option Nat :=
  (if c.isDigit then some (c.toNat - '0'.toNat)
    else if c.isAlpha then some (c.toLower.toNat - 'a'.toNat + 10)
    else none).filter (· < radix)

/-- The value of `acc` followed by the digits of `s`, or `none` at a character
that is not a digit. -/
def digitsFrom (radix : Nat) : Nat → Str → Option Nat
  | acc, [] => some acc
  | acc, c :: cs => (toDigit radix c).bind fun d => digitsFrom radix (acc * radix + d) cs

/-- The value of a digit string that fits in `bits` bits. -/
def ofDigits (radix bits : Nat) (ds : Str) : Option (Word bits) :=
  (digitsFrom radix 0 ds).bind fun v => if h : v < 2 ^ bits then some ⟨v, h⟩ else none

/-- `uN::from_str_radix(s, radix)` (as an `Option`): an optional `+`, then at
least one digit, and a value that fits. -/
def fromStrRadix (radix bits : Nat) (s : Str) : Option (Word bits) :=
  match s with
  | [] => none
  | ['+'] => none
  | '+' :: ds => ofDigits radix bits ds
  | ds => ofDigits radix bits ds

/-- `s.parse::<u64>()`. -/
def parseU64 (s : Str) : Option U64 := fromStrRadix 10 64 s

/-- A numeral in `radix`: one digit or more. -/
def IsNumeral (radix : Nat) (s : Str) : Prop :=
  s ≠ [] ∧ ∀ c ∈ s, (toDigit radix c).isSome

instance (radix : Nat) (s : Str) : Decidable (IsNumeral radix s) :=
  inferInstanceAs (Decidable (_ ∧ _))

/-- The value a numeral denotes. -/
def numeralValue (radix : Nat) (s : Str) : Nat :=
  s.foldl (fun acc c => acc * radix + (toDigit radix c).getD 0) 0

theorem digitsFrom_of_digits {radix : Nat} {s : Str} (hs : ∀ c ∈ s, (toDigit radix c).isSome)
    (acc : Nat) :
    digitsFrom radix acc s = some (s.foldl (fun acc c => acc * radix + (toDigit radix c).getD 0) acc) := by
  induction s generalizing acc with
  | nil => rfl
  | cons c cs ih =>
    obtain ⟨d, hd⟩ := Option.isSome_iff_exists.1 (hs c (List.mem_cons_self c cs))
    simp [digitsFrom, hd, ih (fun x hx => hs x (List.mem_cons_of_mem c hx))]

theorem toDigit_plus (radix : Nat) : toDigit radix '+' = none := rfl

/-- `from_str_radix` reads a numeral to its value when the value fits. -/
theorem fromStrRadix_numeral {radix bits : Nat} {s : Str} (hs : IsNumeral radix s)
    (hv : numeralValue radix s < 2 ^ bits) :
    fromStrRadix radix bits s = some ⟨numeralValue radix s, hv⟩ := by
  obtain ⟨hne, hdig⟩ := hs
  have hplus : ∀ ds, s ≠ '+' :: ds := by
    rintro ds rfl
    simpa [toDigit_plus] using hdig '+' (List.mem_cons_self _ _)
  have hval : ofDigits radix bits s = some ⟨numeralValue radix s, hv⟩ := by
    simp only [ofDigits, digitsFrom_of_digits hdig, Option.some_bind]
    exact dif_pos hv
  unfold fromStrRadix
  split <;> simp_all

/-! ## Hexadecimal formatting -/

/-- `format!("{:x}", x)` of an unsigned integer. core's `GenericRadix::fmt_int`
emits the least significant digit first and stops after the digit that leaves
zero, which is `Nat.toDigits`' loop: at least one digit, no leading zero, no
`0x`. -/
def lowerHex (x : Nat) : Str := Nat.toDigits 16 x

/-- `format!("{:X}", x)`: the same digits, `A`–`F` for ten to fifteen. -/
def upperHex (x : Nat) : Str := (lowerHex x).map Char.toUpper

theorem toDigit_digitChar : ∀ d < 16, toDigit 16 (Nat.digitChar d) = some d := by decide

theorem toDigit_toUpper_digitChar : ∀ d < 16, toDigit 16 (Nat.digitChar d).toUpper = some d := by
  decide

/-- Reading the digits the formatting loop emits, in any case `g` that
`to_digit(16)` still reads, continues from the value still to be printed. -/
theorem digitsFrom_map_toDigitsCore (g : Char → Char)
    (hg : ∀ d < 16, toDigit 16 (g (Nat.digitChar d)) = some d) :
    ∀ (fuel n : Nat) (ds : Str), n < fuel →
      digitsFrom 16 0 ((Nat.toDigitsCore 16 fuel n ds).map g) = digitsFrom 16 n (ds.map g)
  | 0, _, _, h => absurd h (Nat.not_lt_zero _)
  | fuel + 1, n, ds, h => by
    have hd := hg (n % 16) (Nat.mod_lt n (by decide))
    rw [Nat.toDigitsCore]
    split
    · rw [List.map_cons, digitsFrom, hd, Option.some_bind, Nat.zero_mul, Nat.zero_add]
      congr 1
      omega
    · rw [digitsFrom_map_toDigitsCore g hg fuel (n / 16) _ (by omega), List.map_cons, digitsFrom, hd,
        Option.some_bind, Nat.div_add_mod']

theorem digitsFrom_isSome {radix : Nat} : ∀ {acc : Nat} {s : Str},
    (digitsFrom radix acc s).isSome → ∀ c ∈ s, (toDigit radix c).isSome
  | _, [], _ => by simp
  | acc, c :: cs, h => by
    rw [digitsFrom] at h
    rcases hc : toDigit radix c with _ | d
    · rw [hc] at h; cases h
    · rw [hc, Option.some_bind] at h
      intro x hx
      rcases List.mem_cons.1 hx with rfl | hx
      · rw [hc]; rfl
      · exact digitsFrom_isSome h x hx

theorem fromStrRadix_of_digitsFrom {radix bits v : Nat} {s : Str} (hne : s ≠ [])
    (hs : digitsFrom radix 0 s = some v) (hv : v < 2 ^ bits) :
    fromStrRadix radix bits s = some ⟨v, hv⟩ := by
  have hdig := digitsFrom_isSome (by rw [hs]; rfl)
  have hval : numeralValue radix s = v := by
    rw [digitsFrom_of_digits hdig] at hs
    exact Option.some.inj hs
  subst hval
  exact fromStrRadix_numeral ⟨hne, hdig⟩ hv

theorem lowerHex_ne_nil (x : Nat) : lowerHex x ≠ [] := by
  rw [lowerHex, Nat.toDigits, Nat.toDigitsCore]
  split
  · exact List.cons_ne_nil _ _
  · exact List.ne_nil_of_length_pos (by rw [Nat.toDigitsCore_lens_eq]; omega)

/-- `from_str_radix(_, 16)` reads `{:x}` back. -/
theorem fromStrRadix_lowerHex {bits : Nat} (x : Word bits) :
    fromStrRadix 16 bits (lowerHex x.val) = some x := by
  have h := digitsFrom_map_toDigitsCore id toDigit_digitChar (x.val + 1) x.val [] x.val.lt_succ_self
  rw [List.map_id, List.map_id] at h
  exact fromStrRadix_of_digitsFrom (lowerHex_ne_nil _) h x.isLt

/-- `from_str_radix(_, 16)` reads `{:X}` back. -/
theorem fromStrRadix_upperHex {bits : Nat} (x : Word bits) :
    fromStrRadix 16 bits (upperHex x.val) = some x :=
  fromStrRadix_of_digitsFrom (by simpa [upperHex] using lowerHex_ne_nil x.val)
    (digitsFrom_map_toDigitsCore _ toDigit_toUpper_digitChar (x.val + 1) x.val [] x.val.lt_succ_self)
    x.isLt

example : lowerHex 0x1ab000 = "1ab000".toList ∧ upperHex 0x1ab000 = "1AB000".toList := by decide

end Str

end Memflow.Rust
