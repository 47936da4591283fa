import Mathlib.Data.List.Basic
import Mathlib.Tactic.Common

/-!
# Trees with links

A file system as one tree of directories, whose links lead elsewhere in it. A place is the names that lead to it from the root without
a link on the way; a route goes down by names, up, and through links, of which the system follows only so many at a time.
-/

namespace LinkTree

/-- One step of a route. -/
inductive Comp (α : Type*) where
  | here
  | up
  | child (name : α)
  deriving DecidableEq

/-- A route, from the root or from where one is. -/
structure Route (α : Type*) where
  absolute : Bool
  comps : List (Comp α)
  deriving DecidableEq

/-- What stands at a place, with what the system knows of it. -/
inductive Node (α β : Type*) where
  | file (info : β) (bytes : List UInt8)
  | dir (info : β) (entries : List (α × Node α β))
  | link (info : β) (target : Route α)
  | special (info : β)

abbrev Place (α : Type*) := List α

variable {α β : Type*} [DecidableEq α]

namespace Node

def info : Node α β → β
  | file info _ | dir info _ | link info _ | special info => info

def isFile : Node α β → Bool
  | file _ _ => true
  | _ => false

def isDir : Node α β → Bool
  | dir _ _ => true
  | _ => false

def isLink : Node α β → Bool
  | link _ _ => true
  | _ => false

/-- The entry of a name. -/
def entry (name : α) : Node α β → Option (Node α β)
  | dir _ entries => (entries.find? (fun e => e.1 = name)).map (·.2)
  | _ => none

/-- What stands at a place. -/
def find : Place α → Node α β → Option (Node α β)
  | [], n => some n
  | name :: place, n => (n.entry name).bind (find place)

end Node

/-- A system: its tree, where one is in it, and how many links it follows. -/
structure FileSystem (α β : Type*) where
  tree : Node α β
  cwd : Place α
  maxLinks : Nat

namespace Route

def push (r : Route α) (name : α) : Route α := { r with comps := r.comps ++ [.child name] }

end Route

/-! ## Walks -/

/-- A walk up to the next link. `onward` goes on from a link, and the link that is last is followed when `follow` says so. -/
def walkWith (t : Node α β) (onward : Place α → List (Comp α) → Option (Place α)) (follow : Bool) :
    Place α → List (Comp α) → Option (Place α)
  | place, [] => some place
  | place, comp :: comps =>
    match t.find place with
    | some (.dir info entries) =>
      match comp with
      | .here => walkWith t onward follow place comps
      | .up => walkWith t onward follow place.dropLast comps
      | .child name =>
        match (Node.dir info entries).entry name with
        | none => none
        | some (.link _ target) =>
          if comps.isEmpty && !follow then some (place ++ [name])
          else onward (if target.absolute then [] else place) (target.comps ++ comps)
        | some _ => walkWith t onward follow (place ++ [name]) comps
    | _ => none

/-- A walk through as many links at most. -/
def walk (t : Node α β) (follow : Bool) : Nat → Place α → List (Comp α) → Option (Place α)
  | 0 => walkWith t (fun _ _ => none) follow
  | links + 1 => walkWith t (walk t follow links) follow

namespace FileSystem

/-- The place that a route leads to. A route without steps leads nowhere. -/
def lookup (fs : FileSystem α β) (follow : Bool) (r : Route α) : Option (Place α) :=
  if r.comps.isEmpty then none else walk fs.tree follow fs.maxLinks (if r.absolute then [] else fs.cwd) r.comps

/-- What a route leads to, its last link not followed. -/
def symlinkMetadata (fs : FileSystem α β) (r : Route α) : Option (Node α β) := (fs.lookup false r).bind fun place => fs.tree.find place

/-- The place that a route leads to through all links. -/
def canonicalize (fs : FileSystem α β) (r : Route α) : Option (Place α) := fs.lookup true r

/-- What is opened. -/
def open_ (fs : FileSystem α β) (r : Route α) : Option (Node α β) := (fs.lookup true r).bind fun place => fs.tree.find place

end FileSystem

/-! ## Places -/

section

variable {t n : Node α β} {p q place : Place α} {name : α} {info : β} {entries : List (α × Node α β)}

theorem find_append (p q : Place α) (n : Node α β) : n.find (p ++ q) = (n.find p).bind (Node.find q) := by
  induction p generalizing n with
  | nil => rfl
  | cons name p ih =>
    simp only [List.cons_append, Node.find]
    cases n.entry name with
    | none => rfl
    | some m => exact ih m

theorem find_concat (h : t.find place = some n) : t.find (place ++ [name]) = n.entry name := by
  rw [find_append, h, Option.bind_some]
  simp only [Node.find]
  cases n.entry name with
  | none => rfl
  | some m => rfl

end

/-! ## Walks that go on -/

section

variable {t : Node α β} {onward onward' : Place α → List (Comp α) → Option (Place α)} {place q : Place α} {comps : List (Comp α)}
  {name : α} {links : Nat}

/-- One step down, to what is there. -/
def down (t : Node α β) (name : α) (place : Place α) : Option (Place α) :=
  (t.find place).bind fun n => (n.entry name).map fun _ => place ++ [name]

/-- A walk that does not follow its last link is a walk that does, and one step down. -/
theorem walkWith_concat (honward : ∀ place comps, onward' place (comps ++ [.child name]) = (onward place comps).bind (down t name))
    (comps : List (Comp α)) (place : Place α) :
    walkWith t onward' false place (comps ++ [.child name]) = (walkWith t onward true place comps).bind (down t name) := by
  induction comps generalizing place with
  | nil =>
    simp only [List.nil_append, walkWith, Option.bind_some, down]
    cases hfind : t.find place with
    | none => rfl
    | some n =>
      cases n with
      | dir info entries =>
        simp only [Option.bind_some, List.isEmpty_nil, Bool.not_false, Bool.and_self, if_true]
        cases (Node.dir info entries).entry name with
        | none => rfl
        | some m => cases m <;> rfl
      | file _ _ => rfl
      | link _ _ => rfl
      | special _ => rfl
  | cons comp comps ih =>
    simp only [List.cons_append, walkWith]
    cases hfind : t.find place with
    | none => rfl
    | some n =>
      cases n with
      | dir info entries =>
        cases comp with
        | here => exact ih place
        | up => exact ih place.dropLast
        | child name' =>
          dsimp only
          cases (Node.dir info entries).entry name' with
          | none => rfl
          | some m =>
            cases m with
            | link _ target =>
              have hmore : (comps ++ [Comp.child name]).isEmpty = false := by cases comps <;> rfl
              simp only [hmore, Bool.false_and, Bool.not_true, Bool.and_false, Bool.false_eq_true, if_false]
              rw [← List.append_assoc]
              exact honward _ _
            | file _ _ => exact ih _
            | dir _ _ => exact ih _
            | special _ => exact ih _
      | file _ _ => rfl
      | link _ _ => rfl
      | special _ => rfl

theorem walk_concat (t : Node α β) (name : α) (links : Nat) (place : Place α) (comps : List (Comp α)) :
    walk t false links place (comps ++ [.child name]) = (walk t true links place comps).bind (down t name) := by
  induction links generalizing place comps with
  | zero => exact walkWith_concat (fun _ _ => rfl) comps place
  | succ links ih => exact walkWith_concat (fun place comps => ih place comps) comps place

/-- Where the last step is no link, it makes no difference whether it is followed. -/
theorem walkWith_follow
    (honward : ∀ place comps q n, onward place (comps ++ [.child name]) = some q → t.find q = some n → n.isLink = false →
      onward' place (comps ++ [.child name]) = some q)
    {n : Node α β} (h : walkWith t onward false place (comps ++ [.child name]) = some q) (hfind : t.find q = some n)
    (hlink : n.isLink = false) : walkWith t onward' true place (comps ++ [.child name]) = some q := by
  induction comps generalizing place with
  | nil =>
    simp only [List.nil_append, walkWith] at h ⊢
    cases hplace : t.find place with
    | none => rw [hplace] at h; cases h
    | some m =>
      rw [hplace] at h
      cases m with
      | dir info entries =>
        dsimp only at h ⊢
        have hentry : t.find (place ++ [name]) = _ := find_concat hplace
        cases hm : (Node.dir info entries).entry name with
        | none => rw [hm] at h; cases h
        | some m =>
          rw [hm] at h hentry
          cases m with
          | link _ _ =>
            cases Option.some.inj h
            rw [hfind] at hentry
            cases Option.some.inj hentry
            cases hlink
          | file _ _ => exact h
          | dir _ _ => exact h
          | special _ => exact h
      | file _ _ => cases h
      | link _ _ => cases h
      | special _ => cases h
  | cons comp comps ih =>
    simp only [List.cons_append, walkWith] at h ⊢
    cases hplace : t.find place with
    | none => rw [hplace] at h; cases h
    | some m =>
      rw [hplace] at h
      cases m with
      | dir info entries =>
        cases comp with
        | here => exact ih h
        | up => exact ih h
        | child name' =>
          dsimp only at h ⊢
          cases hm : (Node.dir info entries).entry name' with
          | none => rw [hm] at h; cases h
          | some m =>
            rw [hm] at h
            cases m with
            | link _ target =>
              have hmore : (comps ++ [Comp.child name]).isEmpty = false := by cases comps <;> rfl
              simp only [hmore, Bool.false_and, Bool.false_eq_true, if_false] at h ⊢
              rw [← List.append_assoc] at h ⊢
              exact honward _ _ q n h hfind hlink
            | file _ _ => exact ih h
            | dir _ _ => exact ih h
            | special _ => exact ih h
      | file _ _ => cases h
      | link _ _ => cases h
      | special _ => cases h

theorem walk_follow {n : Node α β} (h : walk t false links place (comps ++ [.child name]) = some q) (hfind : t.find q = some n)
    (hlink : n.isLink = false) : walk t true links place (comps ++ [.child name]) = some q := by
  induction links generalizing place comps q n with
  | zero => exact walkWith_follow (fun _ _ _ _ h _ _ => h) h hfind hlink
  | succ links ih => exact walkWith_follow (fun _ _ _ _ h hfind hlink => ih h hfind hlink) h hfind hlink

end

/-! ## Routes that go down -/

namespace FileSystem

variable {fs : FileSystem α β} {r : Route α} {place q : Place α} {name : α} {n : Node α β}

/-- What is found one name below a place. -/
theorem symlinkMetadata_push (h : fs.canonicalize r = some place) : fs.symlinkMetadata (r.push name) = fs.tree.find (place ++ [name]) := by
  unfold canonicalize lookup at h
  split at h
  · cases h
  unfold symlinkMetadata lookup
  have hmore : (r.push name).comps.isEmpty = false := by
    rw [Route.push]
    cases r.comps <;> rfl
  rw [hmore, if_neg Bool.false_ne_true]
  change (walk fs.tree false fs.maxLinks _ (r.comps ++ [.child name])).bind _ = _
  rw [walk_concat]
  change ((walk fs.tree true fs.maxLinks (if r.absolute then [] else fs.cwd) r.comps).bind _).bind _ = _
  rw [h, Option.bind_some, down]
  cases hfind : fs.tree.find place with
  | none => rw [find_append, hfind]; rfl
  | some m =>
    rw [Option.bind_some, find_concat hfind]
    cases hm : m.entry name with
    | none => rfl
    | some m' => exact (find_concat hfind).trans hm

/-- What is no link is at the place where it is found. -/
theorem canonicalize_push (h : fs.canonicalize r = some place) (hfind : fs.tree.find (place ++ [name]) = some n)
    (hlink : n.isLink = false) : fs.canonicalize (r.push name) = some (place ++ [name]) := by
  unfold canonicalize lookup at h ⊢
  split at h
  · cases h
  have hmore : (r.push name).comps.isEmpty = false := by
    rw [Route.push]
    cases r.comps <;> rfl
  rw [hmore, if_neg Bool.false_ne_true]
  refine walk_follow ?_ hfind hlink
  rw [walk_concat]
  change (walk fs.tree true fs.maxLinks (if r.absolute then [] else fs.cwd) r.comps).bind _ = _
  rw [h, Option.bind_some, down]
  rw [find_append] at hfind
  obtain ⟨m, hm, hentry⟩ := Option.bind_eq_some_iff.mp hfind
  obtain ⟨m', hm', -⟩ := Option.bind_eq_some_iff.mp hentry
  rw [hm, Option.bind_some, hm', Option.map_some]

end FileSystem

end LinkTree
