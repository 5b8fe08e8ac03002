import Mathlib

/-!
# Memflow — the `ByteSwap` derive

`memflow-derive`'s `#[derive(ByteSwap)]` reads a struct and emits

  `impl<G> ByteSwap for Name<A> where W { fn byte_swap(&mut self) { B } }`.

The syntax it reads is `syn`'s, cut to what the macro looks at: the name,
the generic parameters (type parameters with their bounds and default,
lifetimes with their bounds, const parameters) and the fields. A token
stream is the list of its tokens' texts; `quote!` and `extend` concatenate.

The macro builds `G`, `A` and `W` by extending three token streams once per
parameter, with nothing between two parameters' tokens, and `B` by extending
a fourth once per field.

## Results

* `extendParams_eq` — what the loop over the generic parameters emits, for
  every parameter list.
* `byteswapDerive_named` — the output for every struct with named fields:
  the body is one `self.f.byte_swap();` per field, in order.
* `byteswapDerive_eq_specImpl` — the output is the comma-separated impl
  when the struct has at most one generic parameter: a type parameter
  without a default or a lifetime without bounds.
* `byteswapDerive_generics_divergence` — with two type parameters, a const
  parameter or a default it is not.
* `byteswapDerive_byteSwap` — the emitted body, parsed and run, swaps each
  field exactly once.
-/

namespace Memflow.Derive

/-- A token stream, as its tokens' texts. -/
abbrev TokenStream := List String

/-! ## The syntax the derive reads -/

/-- `syn::TypeParam`: `T: Bounds = Default`. -/
structure TypeParam where
  ident : String
  bounds : TokenStream
  default : Option TokenStream
deriving DecidableEq, Repr

/-- `syn::LifetimeDef`: `'a: 'b`. -/
structure LifetimeDef where
  lifetime : String
  bounds : TokenStream
deriving DecidableEq, Repr

/-- `syn::ConstParam`: `const N: Ty`. -/
structure ConstParam where
  ident : String
  ty : TokenStream
deriving DecidableEq, Repr

/-- `syn::GenericParam`. -/
inductive GenericParam
  | type (ty : TypeParam)
  | lifetime (lt : LifetimeDef)
  | const (cnst : ConstParam)
deriving DecidableEq, Repr

/-- A field of `Fields::Named`, which `syn` always gives an ident. -/
structure NamedField where
  ident : String
  ty : TokenStream
deriving DecidableEq, Repr

/-- `syn::Fields`. -/
inductive Fields
  | named (named : List NamedField)
  | unnamed
  | unit
deriving DecidableEq, Repr

/-- `syn::Data`. -/
inductive Data
  | struct (fields : Fields)
  | enum
  | union
deriving DecidableEq, Repr

/-- `syn::DeriveInput`. -/
structure DeriveInput where
  ident : String
  generics : List GenericParam
  data : Data
deriving DecidableEq, Repr

/-- `: bounds`, when there are bounds. -/
def boundsTokens (bounds : TokenStream) : TokenStream :=
  if bounds = [] then [] else ":" :: bounds

/-- `quote!(#ty)`: the ident, the bounds, and the default. -/
def TypeParam.toTokens (ty : TypeParam) : TokenStream :=
  ty.ident :: boundsTokens ty.bounds ++ (ty.default.map ("=" :: ·)).getD []

/-- `quote!(#lt)`: the lifetime and its bounds. -/
def LifetimeDef.toTokens (lt : LifetimeDef) : TokenStream :=
  lt.lifetime :: boundsTokens lt.bounds

/-! ## The derive -/

/-- `impl_generics`, `type_generics` and `where_generics`. -/
structure Generics where
  implGenerics : TokenStream
  typeGenerics : TokenStream
  whereGenerics : TokenStream
deriving DecidableEq, Repr

/-- One round of the loop over the generic parameters. -/
def Generics.extend (g : Generics) : GenericParam → Generics
  | .type ty => ⟨g.implGenerics ++ ty.toTokens, g.typeGenerics ++ [ty.ident],
      g.whereGenerics ++ [ty.ident, ":", "ByteSwap"]⟩
  | .lifetime lt => ⟨g.implGenerics ++ lt.toTokens, g.typeGenerics ++ lt.toTokens, g.whereGenerics⟩
  | .const _ => g

/-- `self.#name.byte_swap();` -/
def fieldSwap (name : String) : TokenStream :=
  ["self", ".", name, ".", "byte_swap", "(", ")", ";"]

/-- `gen_inner`: a swap per named field; `unimplemented!()` (`none`) for any
other input. -/
def genInner : Data → Option TokenStream
  | .struct (.named named) => some (named.foldl (fun acc field => acc ++ fieldSwap field.ident) [])
  | _ => none

/-- The emitted item, its four holes filled. -/
def implItem (name : String) (implGenerics typeGenerics whereGenerics body : TokenStream) :
    TokenStream :=
  ["impl", "<"] ++ implGenerics ++ [">", "ByteSwap", "for", name, "<"] ++ typeGenerics ++
    [">", "where"] ++ whereGenerics ++
    ["\x7b", "fn", "byte_swap", "(", "&", "mut", "self", ")", "\x7b"] ++ body ++ ["\x7d", "\x7d"]

/-- `byteswap_derive`. -/
def byteswapDerive (input : DeriveInput) : Option TokenStream := do
  let g := input.generics.foldl Generics.extend ⟨[], [], []⟩
  let body ← genInner input.data
  pure (implItem input.ident g.implGenerics g.typeGenerics g.whereGenerics body)

/-! ## What the loops emit -/

namespace GenericParam

/-- What one parameter adds to `impl_generics`. -/
def implTokens : GenericParam → TokenStream
  | .type ty => ty.toTokens
  | .lifetime lt => lt.toTokens
  | .const _ => []

/-- What one parameter adds to `type_generics`: a lifetime adds its bounds
too, as `impl_generics` does. -/
def typeTokens : GenericParam → TokenStream
  | .type ty => [ty.ident]
  | .lifetime lt => lt.toTokens
  | .const _ => []

/-- What one parameter adds to `where_generics`. -/
def whereTokens : GenericParam → TokenStream
  | .type ty => [ty.ident, ":", "ByteSwap"]
  | _ => []

end GenericParam

theorem Generics.extend_eq (g : Generics) (p : GenericParam) :
    g.extend p = ⟨g.implGenerics ++ p.implTokens, g.typeGenerics ++ p.typeTokens,
      g.whereGenerics ++ p.whereTokens⟩ := by
  cases p <;> simp [Generics.extend, GenericParam.implTokens, GenericParam.typeTokens,
    GenericParam.whereTokens]

/-- **The loop over the generic parameters.** Each stream is extended by
every parameter's tokens in turn, with nothing between them. -/
theorem extendParams_eq (params : List GenericParam) (g : Generics) :
    params.foldl Generics.extend g = ⟨g.implGenerics ++ params.flatMap GenericParam.implTokens,
      g.typeGenerics ++ params.flatMap GenericParam.typeTokens,
      g.whereGenerics ++ params.flatMap GenericParam.whereTokens⟩ := by
  induction params generalizing g with
  | nil => simp
  | cons p params ih => simp [ih, Generics.extend_eq]

/-- Extending an accumulator by each element's tokens appends them all. -/
theorem foldl_extend {α : Type} (f : α → TokenStream) (xs : List α) (acc : TokenStream) :
    xs.foldl (fun acc x => acc ++ f x) acc = acc ++ xs.flatMap f := by
  induction xs generalizing acc with
  | nil => simp
  | cons x xs ih => simp [ih]

/-- **The output for every struct with named fields.** -/
theorem byteswapDerive_named (name : String) (generics : List GenericParam)
    (named : List NamedField) :
    byteswapDerive ⟨name, generics, .struct (.named named)⟩ =
      some (implItem name (generics.flatMap GenericParam.implTokens)
        (generics.flatMap GenericParam.typeTokens) (generics.flatMap GenericParam.whereTokens)
        (named.flatMap fun field => fieldSwap field.ident)) := by
  simp [byteswapDerive, genInner, foldl_extend, extendParams_eq]

/-- Any other input reaches `unimplemented!()`. -/
theorem byteswapDerive_eq_none {input : DeriveInput}
    (h : ∀ named, input.data ≠ .struct (.named named)) : byteswapDerive input = none := by
  obtain ⟨name, generics, data⟩ := input
  rcases data with (_ | _ | _) | _ | _ <;> first | exact absurd rfl (h _) | rfl

/-! ## The impl a derive should emit -/

namespace GenericParam

/-- The parameter as `impl<…>` declares it: with its bounds, without a default. -/
def decl : GenericParam → TokenStream
  | .type ty => ty.ident :: boundsTokens ty.bounds
  | .lifetime lt => lt.toTokens
  | .const c => ["const", c.ident, ":"] ++ c.ty

/-- The parameter as `Name<…>` names it. -/
def arg : GenericParam → TokenStream
  | .type ty => [ty.ident]
  | .lifetime lt => [lt.lifetime]
  | .const c => [c.ident]

/-- The `where` predicates the parameter needs. -/
def bound : GenericParam → List TokenStream
  | .type ty => [[ty.ident, ":", "ByteSwap"]]
  | _ => []

/-- A type parameter without a default, or a lifetime without bounds. -/
def Plain : GenericParam → Prop
  | .type ty => ty.default = none
  | .lifetime lt => lt.bounds = []
  | .const _ => False

instance : DecidablePred Plain
  | .type ty => inferInstanceAs (Decidable (ty.default = none))
  | .lifetime lt => inferInstanceAs (Decidable (lt.bounds = []))
  | .const _ => instDecidableFalse

end GenericParam

/-- The impl the specification of the derive describes for a struct with
named fields: `G`, `A` and `W` comma-separated, one swap per field. -/
def specImpl (input : DeriveInput) : Option TokenStream :=
  match input.data with
  | .struct (.named named) => some (implItem input.ident
      ([","].intercalate (input.generics.map GenericParam.decl))
      ([","].intercalate (input.generics.map GenericParam.arg))
      ([","].intercalate (input.generics.flatMap GenericParam.bound))
      (named.flatMap fun field => fieldSwap field.ident))
  | _ => none

/-- **Where the derive is right.** With no generic parameter, or one type
parameter without a default, or one lifetime without bounds, the derive
emits the specified impl. -/
theorem byteswapDerive_eq_specImpl (input : DeriveInput)
    (hgen : input.generics = [] ∨ ∃ p, input.generics = [p] ∧ p.Plain) :
    byteswapDerive input = specImpl input := by
  obtain ⟨name, generics, data⟩ := input
  rcases data with (named | _ | _) | _ | _
  · rw [byteswapDerive_named]
    rcases hgen with rfl | ⟨p, rfl, hp⟩
    · rfl
    · cases p <;> simp only [GenericParam.Plain] at hp <;>
        simp [specImpl, GenericParam.implTokens, GenericParam.decl, GenericParam.typeTokens,
          GenericParam.arg, GenericParam.whereTokens, GenericParam.bound, TypeParam.toTokens,
          LifetimeDef.toTokens, boundsTokens, hp, List.intercalate]
  all_goals rfl

theorem byteswapDerive_eq_specImpl_wrapper :
    ((⟨"Wrapper", [.type ⟨"T", ["Copy"], none⟩], .struct (.named [⟨"inner", ["T"]⟩])⟩ :
        DeriveInput).generics = [] ∨
      ∃ p, [GenericParam.type ⟨"T", ["Copy"], none⟩] = [p] ∧ p.Plain) ∧
    byteswapDerive ⟨"Wrapper", [.type ⟨"T", ["Copy"], none⟩], .struct (.named [⟨"inner", ["T"]⟩])⟩ =
      specImpl ⟨"Wrapper", [.type ⟨"T", ["Copy"], none⟩], .struct (.named [⟨"inner", ["T"]⟩])⟩ :=
  have hgen : ∃ p, [GenericParam.type ⟨"T", ["Copy"], none⟩] = [p] ∧ p.Plain := ⟨_, rfl, rfl⟩
  ⟨.inr hgen, byteswapDerive_eq_specImpl _ (.inr hgen)⟩

/-- `struct Pair<T, U> { a: T, b: U }`: the loops put no comma between two
parameters, so the derive emits `impl<T U> ByteSwap for Pair<T U> where
T: ByteSwap U: ByteSwap`, which is no Rust. A const parameter is dropped from
`impl<…>` and `Name<…>`, and a type parameter's default is kept in `impl<…>`. -/
theorem byteswapDerive_generics_divergence :
    byteswapDerive ⟨"Pair", [.type ⟨"T", [], none⟩, .type ⟨"U", [], none⟩],
        .struct (.named [⟨"a", ["T"]⟩, ⟨"b", ["U"]⟩])⟩ =
      some (implItem "Pair" ["T", "U"] ["T", "U"] ["T", ":", "ByteSwap", "U", ":", "ByteSwap"]
        (fieldSwap "a" ++ fieldSwap "b")) ∧
    specImpl ⟨"Pair", [.type ⟨"T", [], none⟩, .type ⟨"U", [], none⟩],
        .struct (.named [⟨"a", ["T"]⟩, ⟨"b", ["U"]⟩])⟩ =
      some (implItem "Pair" ["T", ",", "U"] ["T", ",", "U"]
        ["T", ":", "ByteSwap", ",", "U", ":", "ByteSwap"] (fieldSwap "a" ++ fieldSwap "b")) ∧
    byteswapDerive ⟨"Buf", [.const ⟨"N", ["usize"]⟩],
        .struct (.named [⟨"len", ["usize"]⟩])⟩ = some (implItem "Buf" [] [] [] (fieldSwap "len")) ∧
    byteswapDerive ⟨"Tagged", [.type ⟨"T", [], some ["u8"]⟩], .struct (.named [⟨"tag", ["T"]⟩])⟩ =
      some (implItem "Tagged" ["T", "=", "u8"] ["T"] ["T", ":", "ByteSwap"] (fieldSwap "tag")) :=
  ⟨rfl, rfl, rfl, rfl⟩

/-! ## What the emitted `byte_swap` does -/

/-- The statements of a `byte_swap` body, as the fields they swap: one
`self.f.byte_swap();` after another, and `none` at any other token. -/
def parseBody : TokenStream → Option (List String)
  | [] => some []
  | t₀ :: t₁ :: f :: t₃ :: t₄ :: t₅ :: t₆ :: t₇ :: rest =>
    if [t₀, t₁, t₃, t₄, t₅, t₆, t₇] = ["self", ".", ".", "byte_swap", "(", ")", ";"] then
      (f :: ·) <$> parseBody rest
    else none
  | _ => none

theorem parseBody_fieldSwap_append (f : String) (rest : TokenStream) :
    parseBody (fieldSwap f ++ rest) = (f :: ·) <$> parseBody rest := by
  simp only [fieldSwap, List.cons_append, List.nil_append]
  rw [parseBody]
  exact if_pos rfl

theorem parseBody_fieldSwap {α : Type} (ident : α → String) (xs : List α) :
    parseBody (xs.flatMap fun x => fieldSwap (ident x)) = some (xs.map ident) := by
  induction xs with
  | nil => rfl
  | cons x xs ih =>
    rw [List.flatMap_cons, parseBody_fieldSwap_append, ih]
    rfl

/-- Running a `byte_swap` body on a struct value, given as the value of each
field, with `swap f` the `byte_swap` of field `f`'s type: the fields are
swapped in turn. -/
def runBody {V : Type} (swap : String → V → V) (fields : List String) (r : String → V) :
    String → V :=
  fields.foldl (fun r f => Function.update r f (swap f (r f))) r

/-- A run swaps each field once per time the body names it. -/
theorem runBody_apply {V : Type} (swap : String → V → V) :
    ∀ (fields : List String) (r : String → V) (g : String),
      runBody swap fields r g = (swap g)^[fields.count g] (r g)
  | [], _, _ => rfl
  | f :: fields, r, g => by
    rw [runBody, List.foldl_cons, ← runBody, runBody_apply swap fields _ g, List.count_cons]
    by_cases h : g = f
    · subst h
      simp [Function.iterate_succ_apply]
    · simp [Function.update_noteq h, Ne.symm h]

/-- **What the derived `byte_swap` does.** For every struct with named
fields, distinct as Rust requires, the body of the impl the derive emits
parses as one `self.f.byte_swap();` after another, and running it on a value
applies each field type's `byte_swap` to its field exactly once and changes
nothing else. -/
theorem byteswapDerive_byteSwap (name : String) (generics : List GenericParam)
    (named : List NamedField) (hnodup : (named.map NamedField.ident).Nodup) :
    ∃ implGenerics typeGenerics whereGenerics body fields,
      byteswapDerive ⟨name, generics, .struct (.named named)⟩ =
        some (implItem name implGenerics typeGenerics whereGenerics body) ∧
      parseBody body = some fields ∧
      ∀ {V : Type} (swap : String → V → V) (r : String → V) (g : String),
        runBody swap fields r g = if g ∈ named.map NamedField.ident then swap g (r g) else r g :=
  ⟨_, _, _, _, _, byteswapDerive_named name generics named, parseBody_fieldSwap _ named,
    fun swap r g => by
      rw [runBody_apply]
      split_ifs with hg
      · rw [List.count_eq_one_of_mem hnodup hg, Function.iterate_one]
      · rw [List.count_eq_zero_of_not_mem hg, Function.iterate_zero, id]⟩

/-- `struct Header { magic: u32, len: u64 }`. -/
def headerInput : DeriveInput :=
  ⟨"Header", [], .struct (.named [⟨"magic", ["u32"]⟩, ⟨"len", ["u64"]⟩])⟩

theorem byteswapDerive_byteSwap_header :
    (["magic", "len"] : List String).Nodup ∧
    ∃ implGenerics typeGenerics whereGenerics body fields,
      byteswapDerive headerInput = some (implItem "Header" implGenerics typeGenerics whereGenerics body) ∧
      parseBody body = some fields ∧
      ∀ {V : Type} (swap : String → V → V) (r : String → V) (g : String),
        runBody swap fields r g = if g ∈ ["magic", "len"] then swap g (r g) else r g :=
  have hnodup : (["magic", "len"] : List String).Nodup := by decide
  ⟨hnodup, byteswapDerive_byteSwap "Header" [] [⟨"magic", ["u32"]⟩, ⟨"len", ["u64"]⟩] hnodup⟩

end Memflow.Derive
