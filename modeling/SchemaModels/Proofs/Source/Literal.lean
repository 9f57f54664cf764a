/-
Literals as they are written are read as themselves, but for carriage returns in their texts: these
are not written.

A literal is scanned to tokens of its own, item by item where it is a tuple, and from the tokens it
is put together again.  The brackets around a tuple hold at least as many tokens as it has items, and
each item has fewer tokens than the tuple, so the bounds of the reader are never met.
-/
import SchemaModels.Proofs.Source.Scan

namespace SchemaModels
namespace Literal

/-! ## Inside literals -/

/-- What holds of a tuple whenever it holds of its items holds of all literals, if it holds of those
that are no tuples. -/
theorem nested_induction {P : Literal → Prop} (text : ∀ value, P (.text value))
    (bool : ∀ value, P (.bool value)) (int : ∀ value, P (.int value))
    (name : ∀ value, P (.name value))
    (tuple : ∀ items, (∀ item ∈ items, P item) → P (.tuple items)) (v : Literal) : P v :=
  @Literal.rec P (fun items => ∀ item ∈ items, P item) text bool int tuple name
    (fun _ h => absurd h List.not_mem_nil)
    (fun _ _ hitem hrest => List.forall_mem_cons.mpr ⟨hitem, hrest⟩) v

/-- The bare names in a literal. -/
def names : Literal → List String
  | .name value => [value]
  | .tuple items => items.flatMap names
  | .text _ | .bool _ | .int _ => []

/-- The texts in a literal. -/
def texts : Literal → List String
  | .text value => [value]
  | .tuple items => items.flatMap texts
  | .name _ | .bool _ | .int _ => []

def withoutReturns : Literal → Literal
  | .text value => .text (LineReader.withoutReturns value)
  | .tuple items => .tuple (items.map withoutReturns)
  | .bool value => .bool value
  | .int value => .int value
  | .name value => .name value

theorem withoutReturns_eq_self {v : Literal} (h : ∀ s ∈ v.texts, '\r' ∉ s.toList) :
    v.withoutReturns = v := by
  induction v using nested_induction with
  | text value =>
    have hvalue : '\r' ∉ value.toList := h value (by simp [texts])
    have hkept : value.toList.filter (· ≠ '\r') = value.toList :=
      List.filter_eq_self.mpr fun c hc => decide_eq_true (fun e => hvalue (e ▸ hc))
    rw [withoutReturns, LineReader.withoutReturns, hkept, String.ofList_toList]
  | bool value => rw [withoutReturns]
  | int value => rw [withoutReturns]
  | name value => rw [withoutReturns]
  | tuple items ih =>
    have hitems : ∀ item ∈ items, item.withoutReturns = item := fun item hitem =>
      ih item hitem fun s hs => h s (by rw [texts]; exact List.mem_flatMap.mpr ⟨item, hitem, hs⟩)
    rw [withoutReturns, List.map_congr_left hitems, List.map_id']

theorem renderItems_eq (items : List Literal) :
    renderItems items = ", ".intercalate (items.map render) := by
  match items with
  | [] => rfl
  | [item] => rw [renderItems, List.map_singleton, String.intercalate_singleton]
  | item :: next :: rest =>
    simp only [renderItems, renderItems_eq (next :: rest), List.map_cons,
      String.intercalate_cons_cons]

end Literal

namespace LineReader

/-! ## The tokens of literals -/

def intTokens : Int → List Token
  | .ofNat n => [.number n]
  | .negSucc n => [.sign '-', .number (n + 1)]

def separated (tokens : List (List Token)) : List Token := [Token.sign ','].intercalate tokens

def literalTokens : Literal → List Token
  | .text value => [.text (withoutReturns value)]
  | .bool value => [.name (if value then "True" else "False")]
  | .int value => intTokens value
  | .name value => [.name value]
  | .tuple items =>
    .sign '(' :: (separated (items.map literalTokens) ++
      ((if items.length = 1 then [.sign ','] else []) ++ [.sign ')']))

theorem Scans.sign {text : List Char} {tokens : List Token} (h : Scans text tokens) {c : Char}
    (hdelimiter : isDelimiter c = true) (hsign : isSign c = true) (rest : List Char) :
    Scan.between.tokens (text ++ c :: rest) =
      (Scan.between.tokens rest).map (tokens ++ .sign c :: ·) := by
  rw [h (c :: rest) (delimited_cons hdelimiter), Scan.tokens_sign hsign, Option.map_map]
  rfl

theorem scans_separated {α : Type} {text : α → String} {tokens : α → List Token} {items : List α}
    (h : ∀ item ∈ items, Scans (text item).toList (tokens item)) :
    Scans (", ".intercalate (items.map text)).toList (separated (items.map tokens)) := by
  intro rest hrest
  match items with
  | [] =>
    exact Option.map_id_apply.symm
  | [item] =>
    rw [List.map_singleton, String.intercalate_singleton, List.map_singleton, separated,
      List.intercalate_singleton]
    exact h item (List.mem_singleton.mpr rfl) rest hrest
  | item :: next :: others =>
    obtain ⟨hitem, hothers⟩ := List.forall_mem_cons.mp h
    have htext : (", ".intercalate ((item :: next :: others).map text)).toList ++ rest =
        (text item).toList ++ ',' :: ' ' ::
          ((", ".intercalate ((next :: others).map text)).toList ++ rest) := by
      rw [List.map_cons, List.map_cons, String.intercalate_cons_cons]
      simp
    have htokens : separated ((item :: next :: others).map tokens) =
        tokens item ++ .sign ',' :: separated ((next :: others).map tokens) := by
      rw [List.map_cons, List.map_cons, separated, List.intercalate_cons_cons]
      simp [separated]
    rw [htext, hitem.sign (by decide) (by decide), Scan.tokens_blank,
      scans_separated hothers rest hrest, htokens, Option.map_map]
    simp [Function.comp_def]

theorem scans_literal {v : Literal} (h : ∀ name ∈ v.names, isIdentifier name = true) :
    Scans v.render.toList (literalTokens v) := by
  induction v using Literal.nested_induction with
  | text value =>
    rw [Literal.render, literalTokens]
    exact scans_quote value
  | bool value =>
    rw [literalTokens]
    cases value <;> exact scans_name (by decide)
  | int value =>
    rw [Literal.render, literalTokens]
    cases value <;> exact scans_int _
  | name value =>
    rw [Literal.render, literalTokens]
    exact scans_name (h value (by simp [Literal.names]))
  | tuple items ih =>
    have hitems : Scans (", ".intercalate (items.map Literal.render)).toList
        (separated (items.map literalTokens)) := by
      refine scans_separated fun item hitem => ih item hitem fun name hname => h name ?_
      rw [Literal.names]
      exact List.mem_flatMap.mpr ⟨item, hitem, hname⟩
    intro rest _
    have hopen : isSign '(' = true := by decide
    have hclose : isSign ')' = true := by decide
    by_cases hone : items.length = 1
    · have htext : (Literal.tuple items).render.toList ++ rest =
          '(' :: ((", ".intercalate (items.map Literal.render)).toList ++ ',' :: ')' :: rest) := by
        simp [Literal.render, Literal.renderItems_eq, hone]
      rw [htext, Scan.tokens_sign hopen, hitems.sign (by decide) (by decide),
        Scan.tokens_sign hclose, Option.map_map, Option.map_map, literalTokens, if_pos hone]
      simp [Function.comp_def]
    · have htext : (Literal.tuple items).render.toList ++ rest =
          '(' :: ((", ".intercalate (items.map Literal.render)).toList ++ ')' :: rest) := by
        simp [Literal.render, Literal.renderItems_eq, hone]
      rw [htext, Scan.tokens_sign hopen, hitems.sign (by decide) (by decide), Option.map_map,
        literalTokens, if_neg hone]
      simp [Function.comp_def]

/-! ## Reading literals -/

theorem length_le_separated (lists : List (List Token)) :
    lists.length ≤ (separated lists).length + 1 := by
  match lists with
  | [] => exact Nat.zero_le _
  | [tokens] => exact Nat.le_add_left 1 _
  | tokens :: next :: rest =>
    have ih := length_le_separated (next :: rest)
    rw [separated] at ih ⊢
    rw [List.intercalate_cons_cons]
    simp only [List.length_cons, List.length_append] at ih ⊢
    omega

theorem length_le_separated_of_mem {lists : List (List Token)} {tokens : List Token}
    (h : tokens ∈ lists) : tokens.length ≤ (separated lists).length := by
  match lists with
  | [only] =>
    rw [List.mem_singleton.mp h]
    exact Nat.le_of_eq (congrArg List.length List.intercalate_singleton.symm)
  | first :: next :: rest =>
    rw [separated, List.intercalate_cons_cons]
    simp only [List.length_append]
    rcases List.mem_cons.mp h with rfl | h
    · omega
    · have ih := length_le_separated_of_mem h
      rw [separated] at ih
      omega

theorem length_separated_lt_tuple (items : List Literal) :
    (separated (items.map literalTokens)).length < (literalTokens (.tuple items)).length := by
  rw [literalTokens, List.length_cons, List.length_append]
  omega

theorem readSeparated_comma {α : Type} {readOne : List Token → Option (α × List Token)}
    {tokens rest : List Token} {one : α} (h : readOne tokens = some (one, .sign ',' :: rest))
    (fuel : Nat) :
    readSeparated readOne (fuel + 1) tokens =
      (readSeparated readOne fuel rest).map fun ((others, isOpen), rest) =>
        ((one :: others, isOpen), rest) := by
  simp only [readSeparated, h]

theorem readSeparated_end {α : Type} {readOne : List Token → Option (α × List Token)}
    {rest : List Token} (h : readOne (.sign ')' :: rest) = none) (fuel : Nat) :
    readSeparated readOne (fuel + 1) (.sign ')' :: rest) = some (([], true), rest) := by
  simp only [readSeparated, h]

section

variable {α β : Type} {readOne : List Token → Option (α × List Token)} {tokens : β → List Token}
  {value : β → α} (hend : ∀ rest, readOne (.sign ')' :: rest) = none)
include hend

/-- If each item can be read up to the comma or bracket behind it, all of them can. -/
theorem readSeparated_separated {items : List β}
    (hitems : ∀ item ∈ items, ∀ c, c = ',' ∨ c = ')' → ∀ rest,
      readOne (tokens item ++ .sign c :: rest) = some (value item, .sign c :: rest))
    {fuel : Nat} (hfuel : items.length ≤ fuel + 1) (rest : List Token) :
    readSeparated readOne (fuel + 1) (separated (items.map tokens) ++ .sign ')' :: rest) =
      some ((items.map value, items.isEmpty), rest) := by
  induction items generalizing fuel with
  | nil => exact readSeparated_end (hend rest) fuel
  | cons item others ih =>
    obtain ⟨hitem, hothers⟩ := List.forall_mem_cons.mp hitems
    cases others with
    | nil => simp [readSeparated, separated, hitem ')' (Or.inr rfl)]
    | cons next others =>
      obtain ⟨fuel, rfl⟩ : ∃ n, fuel = n + 1 :=
        Nat.exists_eq_succ_of_ne_zero fun h => by simp [h] at hfuel
      have htokens : separated ((item :: next :: others).map tokens) ++ .sign ')' :: rest =
          tokens item ++ .sign ',' ::
            (separated ((next :: others).map tokens) ++ .sign ')' :: rest) := by
        rw [List.map_cons, List.map_cons, separated, List.intercalate_cons_cons]
        simp [separated]
      rw [htokens, readSeparated_comma (hitem ',' (Or.inl rfl) _),
        ih hothers (Nat.le_of_succ_le_succ hfuel)]
      rfl

/-- The comma behind a single item is seen. -/
theorem readSeparated_single {item : β} {rest : List Token}
    (hitem : readOne (tokens item ++ .sign ',' :: .sign ')' :: rest) =
      some (value item, .sign ',' :: .sign ')' :: rest)) (fuel : Nat) :
    readSeparated readOne (fuel + 2) (tokens item ++ .sign ',' :: .sign ')' :: rest) =
      some (([value item], true), rest) := by
  rw [readSeparated_comma hitem, readSeparated_end (hend rest)]
  rfl

end

theorem readLiteral_bracket (depth : Nat) (rest : List Token) :
    readLiteral depth (.sign ')' :: rest) = none := by
  cases depth <;> simp [readLiteral]

theorem readLiteral_open {depth : Nat} {tokens rest : List Token} {items : List Literal}
    {isOpen : Bool} (h : readSeparated (readLiteral depth) tokens.length tokens =
      some ((items, isOpen), rest)) :
    readLiteral (depth + 1) (.sign '(' :: tokens) = some (bracketed items isOpen, rest) := by
  rw [readLiteral, h]
  rfl

/-- Only a single item has to be told from an item in brackets. -/
theorem bracketed_of_length_ne_one {items : List Literal} (h : items.length ≠ 1) :
    bracketed items items.isEmpty = .tuple items := by
  match items with
  | [] => rfl
  | [_] => exact absurd rfl h
  | _ :: _ :: _ => rfl

theorem readLiteral_tuple_single {item : Literal} {depth : Nat}
    (hitem : ∀ rest,
      readLiteral depth (literalTokens item ++ rest) = some (item.withoutReturns, rest))
    (rest : List Token) :
    readLiteral (depth + 1) (literalTokens (.tuple [item]) ++ rest) =
      some (.tuple [item.withoutReturns], rest) := by
  have htokens : literalTokens (.tuple [item]) ++ rest =
      .sign '(' :: (literalTokens item ++ .sign ',' :: .sign ')' :: rest) := by
    simp [literalTokens, separated]
  have hlength : (literalTokens item ++ .sign ',' :: .sign ')' :: rest).length =
      (literalTokens item).length + rest.length + 2 := by
    rw [List.length_append, List.length_cons, List.length_cons]
    omega
  have hinner := readSeparated_single (readLiteral_bracket depth)
    (hitem (.sign ',' :: .sign ')' :: rest)) ((literalTokens item).length + rest.length)
  rw [← hlength] at hinner
  rw [htokens, readLiteral_open hinner]
  rfl

/-- If each item can be read in whatever stands behind it, the tuple can, one level deeper. -/
theorem readLiteral_tuple {items : List Literal} {depth : Nat}
    (hitems : ∀ item ∈ items, ∀ rest,
      readLiteral depth (literalTokens item ++ rest) = some (item.withoutReturns, rest))
    (rest : List Token) :
    readLiteral (depth + 1) (literalTokens (.tuple items) ++ rest) =
      some ((Literal.tuple items).withoutReturns, rest) := by
  rw [Literal.withoutReturns]
  by_cases hone : items.length = 1
  · obtain ⟨item, rfl⟩ := List.length_eq_one_iff.mp hone
    exact readLiteral_tuple_single (hitems item (List.mem_singleton.mpr rfl)) rest
  · have htokens : literalTokens (.tuple items) ++ rest =
        .sign '(' :: (separated (items.map literalTokens) ++ .sign ')' :: rest) := by
      simp [literalTokens, hone]
    have hlength : (separated (items.map literalTokens) ++ .sign ')' :: rest).length =
        (separated (items.map literalTokens)).length + rest.length + 1 := by
      rw [List.length_append, List.length_cons]
      omega
    have hcount : items.length ≤
        (separated (items.map literalTokens)).length + rest.length + 1 := by
      have := length_le_separated (items.map literalTokens)
      rw [List.length_map] at this
      omega
    have hinner := readSeparated_separated (readLiteral_bracket depth)
      (fun item hitem c _ rest => hitems item hitem (.sign c :: rest)) hcount rest
    rw [← hlength] at hinner
    have hread := readLiteral_open hinner
    rw [← List.isEmpty_map, bracketed_of_length_ne_one (by rwa [List.length_map])] at hread
    rw [htokens, hread]

theorem readLiteral_tokens {v : Literal} (h : ∀ name ∈ v.names, name ≠ "True" ∧ name ≠ "False")
    {depth : Nat} (hdepth : (literalTokens v).length ≤ depth) (rest : List Token) :
    readLiteral depth (literalTokens v ++ rest) = some (v.withoutReturns, rest) := by
  induction v using Literal.nested_induction generalizing depth rest with
  | text value =>
    rw [literalTokens] at hdepth ⊢
    obtain ⟨depth, rfl⟩ := Nat.exists_eq_add_of_le' hdepth
    rw [Literal.withoutReturns]
    rfl
  | bool value =>
    rw [literalTokens] at hdepth ⊢
    obtain ⟨depth, rfl⟩ := Nat.exists_eq_add_of_le' hdepth
    rw [Literal.withoutReturns]
    cases value <;> rfl
  | int value =>
    rw [literalTokens] at hdepth ⊢
    rw [Literal.withoutReturns]
    cases value with
    | ofNat n =>
      obtain ⟨depth, rfl⟩ := Nat.exists_eq_add_of_le' hdepth
      rfl
    | negSucc n =>
      obtain ⟨depth, rfl⟩ := Nat.exists_eq_add_of_le' hdepth
      rfl
  | name value =>
    rw [literalTokens] at hdepth ⊢
    obtain ⟨depth, rfl⟩ := Nat.exists_eq_add_of_le' hdepth
    obtain ⟨htrue, hfalse⟩ := h value (by simp [Literal.names])
    rw [Literal.withoutReturns]
    simp [readLiteral, nameLiteral, htrue, hfalse]
  | tuple items ih =>
    have hinside := length_separated_lt_tuple items
    obtain ⟨depth, rfl⟩ := Nat.exists_eq_add_of_le' (show 1 ≤ depth by omega)
    refine readLiteral_tuple
      (fun item hitem rest => ih item hitem (fun name hname => ?_) ?_ rest) rest
    · refine h name ?_
      rw [Literal.names]
      exact List.mem_flatMap.mpr ⟨item, hitem, hname⟩
    · have hshorter := length_le_separated_of_mem (List.mem_map_of_mem hitem (f := literalTokens))
      omega

end LineReader
end SchemaModels
