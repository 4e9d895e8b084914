import Mathlib.Data.List.Basic

/-!
# Overlays

An overlay has values for some of the fields of a record.  `atop` lays a newer one over an older
one, `latest` those of a list, oldest first, and `laidOn` lays it over a record.  A request to
change some of the fields is an overlay; the rules say that several requests may be made into one
(`latest_append`, `laidOn_atop`), and seen in other terms before or after that (`map_latest`).
-/

namespace LocHal

/-- Values for some of the fields `ι` of a record. -/
def Overlay {ι : Type*} (β : ι → Type*) : Type _ := (i : ι) → Option (β i)

namespace Overlay

variable {ι κ : Type*} {β : ι → Type*} {γ : κ → Type*}

/-- No values. -/
def empty : Overlay β := fun _ => none

/-- The newer values, and the older ones where there is none. -/
def atop (newer older : Overlay β) : Overlay β := fun i => (newer i).or (older i)

/-- What a list of overlays comes to, oldest first. -/
def latest (os : List (Overlay β)) : Overlay β :=
  os.foldl (fun older newer => newer.atop older) empty

/-- The record with the values of the overlay. -/
def laidOn (o : Overlay β) (r : (i : ι) → β i) : (i : ι) → β i := fun i => (o i).getD (r i)

variable {o o' o'' : Overlay β} {r : (i : ι) → β i} {i : ι}

@[simp] lemma atop_empty : o.atop empty = o := funext fun _ => Option.or_none

@[simp] lemma empty_atop : (empty : Overlay β).atop o = o := funext fun _ => Option.none_or

lemma atop_assoc : (o.atop o').atop o'' = o.atop (o'.atop o'') :=
  funext fun _ => Option.or_assoc

lemma atop_apply_of_none (h : o i = none) : o.atop o' i = o' i := by
  rw [atop, h, Option.none_or]

lemma atop_apply_of_some {b : β i} (h : o i = some b) : o.atop o' i = some b := by
  rw [atop, h, Option.some_or]

lemma foldl_atop (os : List (Overlay β)) :
    os.foldl (fun older newer => newer.atop older) o = (latest os).atop o := by
  induction os generalizing o with
  | nil => rfl
  | cons newer os ih =>
      rw [latest, List.foldl_cons, List.foldl_cons, ih, ih (o := newer.atop empty), atop_empty,
        atop_assoc]

@[simp] lemma latest_nil : latest ([] : List (Overlay β)) = empty := rfl

@[simp] lemma latest_singleton : latest [o] = o := atop_empty

lemma latest_append (os os' : List (Overlay β)) :
    latest (os ++ os') = (latest os').atop (latest os) := by
  rw [latest, List.foldl_append, foldl_atop]
  rfl

lemma latest_cons (os : List (Overlay β)) : latest (o :: os) = (latest os).atop o := by
  rw [← List.singleton_append, latest_append, latest_singleton]

/-- Two overlays may be laid over a record at once. -/
lemma laidOn_atop : (o.atop o').laidOn r = o.laidOn (o'.laidOn r) := by
  funext i
  rw [laidOn, laidOn, atop, laidOn]
  cases o i with
  | none => rfl
  | some b => rfl

section Map

variable {F : Overlay β → Overlay γ}

/-- Overlays may be seen in other terms before they are made into one, or after. -/
lemma map_latest (hempty : F empty = empty) (hatop : ∀ o o', F (atop o o') = (F o).atop (F o'))
    (os : List (Overlay β)) : F (latest os) = latest (os.map F) := by
  induction os with
  | nil => exact hempty
  | cons o os ih => rw [latest_cons, hatop, ih, List.map_cons, latest_cons]

end Map

end Overlay
end LocHal
