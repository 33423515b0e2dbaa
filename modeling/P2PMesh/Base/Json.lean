import P2PMesh.Base.Table

namespace P2PMesh.Base
set_option autoImplicit true

/-- A document that has been read; a number with a fraction or an exponent stays as its text. -/
inductive Json where
  | null
  | bool (b : Bool)
  | int (n : Int)
  | real (text : String)
  | str (s : String)
  | arr (items : List Json)
  | obj (fields : List (String × Json))

def Json.toStr : Json → Option String
  | .str s => some s
  | _ => none

/-- An unsigned integer below a bound. -/
def Json.toUnsigned (bound : Nat) : Json → Option Nat
  | .int n => if 0 ≤ n ∧ n < bound then some n.toNat else none
  | _ => none

def Json.toList (dec : Json → Option β) : Json → Option (List β)
  | .arr items => items.mapM dec
  | _ => none

/-- Of two members with one name the later counts. -/
def Json.toTable (dec : Json → Option β) : Json → Option (Std.TreeMap String β)
  | .obj fields =>
    (fields.mapM (fun e => (dec e.2).map (fun v => (e.1, v)))).map (fun l => Std.TreeMap.ofList l)
  | _ => none

/-- A variant without data, by its name alone or as the one member of an object. -/
def Json.toVariant (variants : List (String × α)) : Json → Option α
  | .str name | .obj [(name, .null)] => variants.lookup name
  | _ => none

/-- The members of a record by their names, none of them twice and others passed over, or its
first members in their order. -/
def Json.toFields (names : List String) : Json → Option (List (String × Json))
  | .obj fields =>
    if ∀ name ∈ names, (fields.map (·.1)).count name ≤ 1 then some fields else none
  | .arr items => if items.length ≤ names.length then some (names.zip items) else none
  | _ => none

def requiredField (fields : List (String × Json)) (name : String) (dec : Json → Option α) :
    Option α :=
  (fields.lookup name).bind dec

def optionalField (fields : List (String × Json)) (name : String) (default : α)
    (dec : Json → Option α) : Option α :=
  match fields.lookup name with
  | none => some default
  | some j => dec j

def Json.strs (l : List String) : Json := .arr (l.map .str)

theorem toUnsigned_eq_some_iff {bound : Nat} {n : Int} {m : Nat} :
    Json.toUnsigned bound (.int n) = some m ↔ m < bound ∧ (m : Int) = n := by
  rw [Json.toUnsigned]
  split
  · next h =>
    rw [Option.some_inj]
    omega
  · next h =>
    refine iff_of_false nofun ?_
    omega

theorem lookup_eq_some_iff_mem {α : Type} {l : List (String × α)} (h : (l.map (·.1)).Nodup)
    {k : String} {v : α} : l.lookup k = some v ↔ (k, v) ∈ l := by
  induction l with
  | nil => simp only [List.lookup_nil, reduceCtorEq, List.not_mem_nil]
  | cons e l ih =>
    obtain ⟨k', v'⟩ := e
    rw [List.map_cons, List.nodup_cons] at h
    rw [List.lookup_cons, List.mem_cons, Prod.mk.injEq]
    by_cases hk : k = k'
    · subst hk
      have hout : (k, v) ∉ l := fun hmem => h.1 (List.mem_map.mpr ⟨(k, v), hmem, rfl⟩)
      simp only [BEq.rfl, Option.some.injEq, true_and, hout, or_false]
      exact eq_comm
    · simp only [beq_eq_false_iff_ne.mpr hk, hk, false_and, false_or]
      exact ih h.2

theorem toVariant_str_iff {α : Type} {variants : List (String × α)} {text : α → String}
    (hnames : (variants.map (·.1)).Nodup) (htext : ∀ name a, (name, a) ∈ variants ↔ text a = name)
    {name : String} {a : α} : Json.toVariant variants (.str name) = some a ↔ text a = name := by
  rw [Json.toVariant, lookup_eq_some_iff_mem hnames, htext]

section Lists
variable {α β : Type} {enc : α → Json} {dec : Json → Option β} {f : α → Option β} {l : List α}

theorem mapM_eq_some_iff {l' : List β} :
    l.mapM f = some l' ↔ List.Forall₂ (fun a b => f a = some b) l l' := by
  induction l generalizing l' with
  | nil =>
    rw [List.mapM_nil]
    simp only [Option.pure_def, Option.some.injEq, List.forall₂_nil_left_iff]
    exact eq_comm
  | cons a l ih =>
    rw [List.mapM_cons, List.forall₂_cons_left_iff]
    simp only [Option.pure_def, Option.bind_eq_bind, Option.bind_eq_some_iff, ih, Option.some.injEq]
    constructor
    · rintro ⟨b, hb, bs, hbs, rfl⟩
      exact ⟨b, bs, hb, hbs, rfl⟩
    · rintro ⟨b, bs, hb, hbs, rfl⟩
      exact ⟨b, hb, bs, hbs, rfl⟩

theorem exists_forall₂_iff {R : α → β → Prop} :
    (∃ l', List.Forall₂ R l l') ↔ ∀ a ∈ l, ∃ b, R a b := by
  constructor
  · rintro ⟨l', h⟩
    induction h with
    | nil => exact List.forall_mem_nil _
    | cons hab _ ih => exact List.forall_mem_cons.mpr ⟨⟨_, hab⟩, ih⟩
  · intro h
    induction l with
    | nil => exact ⟨[], .nil⟩
    | cons a l ih =>
      obtain ⟨⟨b, hb⟩, hrest⟩ := List.forall_mem_cons.mp h
      obtain ⟨bs, hbs⟩ := ih hrest
      exact ⟨b :: bs, .cons hb hbs⟩

theorem toList_arr_map_iff {l' : List β} :
    Json.toList dec (.arr (l.map enc)) = some l' ↔
      List.Forall₂ (fun a b => dec (enc a) = some b) l l' := by
  rw [Json.toList, mapM_eq_some_iff, List.forall₂_map_left_iff]

theorem toList_strs (l : List String) : Json.toList Json.toStr (.strs l) = some l := by
  rw [Json.strs, toList_arr_map_iff]
  exact List.forall₂_same.mpr (fun _ _ => rfl)

end Lists

section Tables
variable {γ : Type}

theorem getElem?_ofList_toList (t : Std.TreeMap String γ) (k : String) :
    (Std.TreeMap.ofList t.toList)[k]? = t[k]? := by
  cases hk : t[k]? with
  | some v =>
    exact Std.TreeMap.getElem?_ofList_of_mem (k := k) Std.compare_self
      Std.TreeMap.distinct_keys_toList (Std.TreeMap.mem_toList_iff_getElem?_eq_some.mpr hk)
  | none =>
    apply Std.TreeMap.getElem?_ofList_of_contains_eq_false
    apply Bool.eq_false_iff.mpr
    intro hc
    obtain ⟨e, he, rfl⟩ := List.mem_map.mp (List.contains_iff_mem.mp hc)
    rw [Std.TreeMap.mem_toList_iff_getElem?_eq_some, hk] at he
    cases he

theorem toTable_obj {enc : γ → Json} {dec : Json → Option γ} (h : ∀ v, dec (enc v) = some v)
    (t : Std.TreeMap String γ) :
    ∃ t', Json.toTable dec (.obj (t.toList.map (fun e => (e.1, enc e.2)))) = some t' ∧
      ∀ k : String, t'[k]? = t[k]? := by
  refine ⟨Std.TreeMap.ofList t.toList, ?_, getElem?_ofList_toList t⟩
  rw [Json.toTable, Option.map_eq_some_iff]
  refine ⟨t.toList, ?_, rfl⟩
  rw [mapM_eq_some_iff, List.forall₂_map_left_iff]
  exact List.forall₂_same.mpr (fun e _ => by simp only [h, Option.map_some])

end Tables

end P2PMesh.Base
