import TurtleAssist.Json.Value
import TurtleAssist.Proofs.Json.Extent

/-!
# What is written is JSON

A value that is rendered is a written form of its tree, whatever follows it
(`Json.writes_render`), so the text of a value is a text of its tree. The escapes and the
numerals are those of the grammar; the commas of an array or an object are where the next
item or member is looked for.
-/

namespace TurtleAssist

namespace Json

variable {t : List Char}

/-! ## Trees of values -/

mutual

/-- The tree of a value. A number is written as its numeral. -/
def tree : Json → Tree
  | .null => .null
  | .bool value => .bool value
  | .number value => .number (toString value).toList
  | .string value => .string value
  | .array items => .array (trees items)
  | .object members => .object (treesOfMembers members)

/-- The trees of items. -/
def trees : List Json → List Tree
  | [] => []
  | item :: items => item.tree :: trees items

/-- The trees of members, under their keys. -/
def treesOfMembers : List (String × Json) → List (String × Tree)
  | [] => []
  | (key, value) :: members => (key, value.tree) :: treesOfMembers members

end

theorem trees_eq_map (items : List Json) : trees items = items.map tree := by
  induction items with
  | nil => rfl
  | cons item items ih => exact congrArg (item.tree :: ·) ih

/-! ## Strings -/

theorem hexValueOf?_control (n : Nat) (h : n < 0x20) :
    hexValueOf? '0' '0' (hexDigit (n / 16)) (hexDigit n) = some n := by
  revert h n
  decide

/-- A character is escaped as it may be written in a string. -/
theorem writesChar_escapeChar (c : Char) (t : List Char) : WritesChar c (escapeChar c ++ t) t := by
  unfold escapeChar
  split
  · exact .letter (by decide) t
  · exact .letter (by decide) t
  · exact .letter (by decide) t
  · exact .letter (by decide) t
  · exact .letter (by decide) t
  · exact .letter (by decide) t
  · exact .letter (by decide) t
  · next hquote hbackslash _ _ _ _ _ =>
    split
    · next hcontrol => exact .numbered (hexValueOf?_control c.toNat hcontrol) t
    · next hcontrol => exact .plain hquote hbackslash (Nat.le_of_not_lt hcontrol) t

theorem writesChars_escape (cs t : List Char) :
    WritesChars cs (cs.flatMap escapeChar ++ '"' :: t) t := by
  induction cs with
  | nil => exact .close t
  | cons c cs ih =>
    rw [List.flatMap_cons, List.append_assoc]
    exact .char (writesChar_escapeChar c _) ih

/-- A string between its quotes is rendered so. -/
theorem renderString_append (text : String) (t : List Char) :
    renderString text ++ t = '"' :: (text.toList.flatMap escapeChar ++ '"' :: t) := by
  rw [renderString, List.append_assoc]
  rfl

/-! ## Numbers -/

theorem isDigit_digitChar (d : Nat) (h : d < 10) : IsDigits [Nat.digitChar d] := by
  have hdigit : ∀ d < 10, (digitValue? (Nat.digitChar d)).isSome = true := by decide
  exact fun c hc => List.mem_singleton.mp hc ▸ hdigit d h

/-- The digits of a positive number do not begin with zero. -/
theorem exists_toDigits_eq_cons (n : Nat) (h : 0 < n) :
    ∃ c s, Nat.toDigits 10 n = c :: s ∧ c ≠ '0' ∧ IsDigits (c :: s) := by
  induction n using Nat.strongRecOn with
  | ind n ih =>
    by_cases hlt : n < 10
    · have hne : ∀ d < 10, 0 < d → Nat.digitChar d ≠ '0' := by decide
      exact ⟨_, [], Nat.toDigits_of_lt_base hlt, hne n hlt h, isDigit_digitChar n hlt⟩
    · obtain ⟨c, s, hdigits, hne, hall⟩ := ih (n / 10) (by omega) (by omega)
      refine ⟨c, s ++ [Nat.digitChar (n % 10)], ?_, hne, ?_⟩
      · rw [Nat.toDigits_of_base_le (by decide) (Nat.le_of_not_lt hlt), hdigits]
        rfl
      · intro x hx
        rcases List.mem_append.mp (List.cons_append ▸ hx : x ∈ (c :: s) ++ _) with hx | hx
        · exact hall x hx
        · exact isDigit_digitChar _ (Nat.mod_lt n (by decide)) x hx

theorem isWhole_toDigits (n : Nat) : IsWhole (Nat.toDigits 10 n) := by
  cases n with
  | zero => exact .zero
  | succ n =>
    obtain ⟨c, s, hdigits, hne, hall⟩ := exists_toDigits_eq_cons (n + 1) (Nat.succ_pos n)
    rw [hdigits]
    exact .nonzero (fun x hx => hall x (List.mem_cons.mpr (Or.inl (List.mem_singleton.mp hx)))) hne
      fun x hx => hall x (List.mem_cons_of_mem c hx)

/-- **An integer is written as a numeral.** -/
theorem isNumeral_toString (n : Int) : IsNumeral (toString n).toList := by
  have hparts : ∀ {sign whole}, sign = [] ∨ sign = ['-'] → IsWhole whole →
      IsNumeral (sign ++ whole) := by
    intro sign whole hsign hwhole
    have hnumeral := IsNumeral.parts hsign hwhole .none .none
    rwa [List.append_nil, List.append_nil] at hnumeral
  cases n with
  | ofNat n =>
    show IsNumeral n.repr.toList
    rw [Nat.toList_repr]
    exact hparts (Or.inl rfl) (isWhole_toDigits n)
  | negSucc n =>
    show IsNumeral ("-" ++ (n + 1).repr).toList
    rw [String.toList_append, Nat.toList_repr]
    exact hparts (Or.inr rfl) (isWhole_toDigits (n + 1))

/-! ## Values -/

mutual

/-- **A value is rendered as a written form of its tree.** -/
theorem writes_render : ∀ (json : Json) (t : List Char), Writes json.tree (json.render ++ t) t
  | .null, t => .null t
  | .bool true, t => .yes t
  | .bool false, t => .no t
  | .number value, t => .number (isNumeral_toString value) t
  | .string value, t => by
    show Writes (.string value) (renderString value ++ t) t
    rw [renderString_append]
    exact .string (writesChars_escape value.toList t)
  | .array [], t => .array (.close (.none _))
  | .array (item :: items), t => by
    show Writes (.array (trees (item :: items)))
      ('[' :: renderItems (item :: items) ++ [']'] ++ t) t
    rw [List.append_assoc]
    exact .array (writesItems_renderItems (item :: items) (List.cons_ne_nil _ _) (.first (.none _)))
  | .object [], t => .object (.close (.none _))
  | .object (member :: members), t => by
    show Writes (.object (treesOfMembers (member :: members)))
      ('\x7b' :: renderMembers (member :: members) ++ ['\x7d'] ++ t) t
    rw [List.append_assoc]
    exact .object
      (writesMembers_renderMembers (member :: members) (List.cons_ne_nil _ _) (.first (.none _)))

theorem writesItems_renderItems : ∀ (items : List Json), items ≠ [] → ∀ {first : Bool}
    {s t : List Char}, Separated first s (renderItems items ++ ']' :: t) →
      WritesItems first (trees items) s t
  | [], hne, _, _, _, _ => absurd rfl hne
  | [item], _, _, _, t, h => .item h (writes_render item (']' :: t)) (.close (.none _))
  | item :: next :: items, _, first, s, t, h => by
    have h : Separated first s
        (item.render ++ ',' :: renderItems (next :: items) ++ ']' :: t) := h
    rw [List.append_assoc] at h
    exact .item h (writes_render item _)
      (writesItems_renderItems (next :: items) (List.cons_ne_nil _ _) (.comma (.none _) (.none _)))

theorem writesMembers_renderMembers : ∀ (members : List (String × Json)), members ≠ [] →
    ∀ {first : Bool} {s t : List Char}, Separated first s (renderMembers members ++ '\x7d' :: t) →
      WritesMembers first (treesOfMembers members) s t
  | [], hne, _, _, _, _ => absurd rfl hne
  | [(key, value)], _, first, s, t, h => by
    have h : Separated first s (renderString key ++ ':' :: value.render ++ '\x7d' :: t) := h
    rw [List.append_assoc, renderString_append] at h
    exact .member h (writesChars_escape key.toList _) (.none _) (.none _)
      (writes_render value ('\x7d' :: t)) (.close (.none _))
  | (key, value) :: next :: members, _, first, s, t, h => by
    have h : Separated first s (renderString key ++ ':' :: value.render
        ++ ',' :: renderMembers (next :: members) ++ '\x7d' :: t) := h
    rw [List.append_assoc, List.append_assoc, renderString_append] at h
    exact .member h (writesChars_escape key.toList _) (.none _) (.none _) (writes_render value _)
      (writesMembers_renderMembers (next :: members) (List.cons_ne_nil _ _)
        (.comma (.none _) (.none _)))

end

/-- **The text of a value** is a text of its tree. -/
theorem isWritten_render (json : Json) : IsWritten json.tree json.render := by
  have h := writes_render json []
  rw [List.append_nil] at h
  exact ⟨_, _, .none _, h, .none _⟩

end Json

end TurtleAssist
