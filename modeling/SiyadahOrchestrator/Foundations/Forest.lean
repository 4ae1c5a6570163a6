import Mathlib.Data.List.Basic

/-!
# Ordered forests

A list of labelled trees where a node has several lists of trees inside it, as a program has blocks
inside its statements. A `Forest` is one such list, `Forests` are the lists inside a node. Two
forests with the same labels at the same places are equal, so an equation between relabelled forests
(`Forest.map`) pairs their nodes off and keeps order and nesting. `Forest.Related r` pairs the nodes
of two forests off in the same way and says of each pair that `r` holds.
-/

mutual

/-- A list of trees. -/
inductive Forest (α : Type) where
  /-- No tree. -/
  | nil
  /-- A tree, which has lists of trees inside its root, and the trees after it. -/
  | cons (label : α) (inside : Forests α) (rest : Forest α)

/-- The lists of trees inside a node. -/
inductive Forests (α : Type) where
  /-- No list. -/
  | nil
  /-- A list of trees and the lists after it. -/
  | cons (first : Forest α) (rest : Forests α)

end

variable {α β γ : Type}

/-! ### Labels -/

mutual

/-- The same forest under other labels. -/
def Forest.map (f : α → β) : Forest α → Forest β
  | .nil => .nil
  | .cons a inside rest => .cons (f a) (inside.map f) (rest.map f)

/-- The same lists under other labels. -/
def Forests.map (f : α → β) : Forests α → Forests β
  | .nil => .nil
  | .cons first rest => .cons (first.map f) (rest.map f)

end

mutual

/-- The labels, a node before what is inside it. -/
def Forest.labels : Forest α → List α
  | .nil => []
  | .cons a inside rest => a :: (inside.labels ++ rest.labels)

/-- The labels of the lists, one list after the other. -/
def Forests.labels : Forests α → List α
  | .nil => []
  | .cons first rest => first.labels ++ rest.labels

end

mutual

theorem Forest.labels_map (f : α → β) : ∀ F : Forest α, (F.map f).labels = F.labels.map f
  | .nil => rfl
  | .cons a inside rest => by
    rw [Forest.map, Forest.labels, Forest.labels, Forests.labels_map f inside,
      Forest.labels_map f rest, List.map_cons, List.map_append]

theorem Forests.labels_map (f : α → β) : ∀ F : Forests α, (F.map f).labels = F.labels.map f
  | .nil => rfl
  | .cons first rest => by
    rw [Forests.map, Forests.labels, Forests.labels, Forest.labels_map f first,
      Forests.labels_map f rest, List.map_append]

end

mutual

theorem Forest.map_map (f : α → β) (g : β → γ) :
    ∀ F : Forest α, (F.map f).map g = F.map fun a ↦ g (f a)
  | .nil => rfl
  | .cons a inside rest => by
    rw [Forest.map, Forest.map, Forest.map, Forests.map_map f g inside, Forest.map_map f g rest]

theorem Forests.map_map (f : α → β) (g : β → γ) :
    ∀ F : Forests α, (F.map f).map g = F.map fun a ↦ g (f a)
  | .nil => rfl
  | .cons first rest => by
    rw [Forests.map, Forests.map, Forests.map, Forest.map_map f g first, Forests.map_map f g rest]

end

/-- Forests that are the same as far as `p` goes have it of the same nodes. -/
theorem Forest.forall_labels_of_map_eq {p : α → Prop} {F G : Forest α} (h : F.map p = G.map p)
    (hG : ∀ a ∈ G.labels, p a) : ∀ a ∈ F.labels, p a := by
  have hlabels : F.labels.map p = G.labels.map p := by
    rw [← Forest.labels_map, h, Forest.labels_map]
  intro a ha
  have hmem : p a ∈ G.labels.map p := hlabels ▸ List.mem_map_of_mem ha
  obtain ⟨b, hb, hp⟩ := List.mem_map.1 hmem
  exact hp ▸ hG b hb

/-! ### Lists of forests -/

/-- The lists, from a list of them. -/
def Forests.ofList (l : List (Forest α)) : Forests α := l.foldr .cons .nil

@[simp] theorem Forests.ofList_nil : Forests.ofList ([] : List (Forest α)) = .nil := rfl

@[simp] theorem Forests.ofList_cons (F : Forest α) (l : List (Forest α)) :
    Forests.ofList (F :: l) = .cons F (.ofList l) := rfl

/-! ### Concatenation -/

/-- The trees of the first forest, then those of the second one. -/
def Forest.append : Forest α → Forest α → Forest α
  | .nil, G => G
  | .cons a inside rest, G => .cons a inside (rest.append G)

theorem Forest.map_append (f : α → β) :
    ∀ F G : Forest α, (F.append G).map f = (F.map f).append (G.map f)
  | .nil, _ => rfl
  | .cons a inside rest, G => by
    rw [Forest.append, Forest.map, Forest.map, Forest.append, Forest.map_append f rest G]

theorem Forest.labels_append :
    ∀ F G : Forest α, (F.append G).labels = F.labels ++ G.labels
  | .nil, _ => rfl
  | .cons a inside rest, G => by
    rw [Forest.append, Forest.labels, Forest.labels, Forest.labels_append rest G,
      List.cons_append, List.append_assoc]

/-! ### Relations -/

mutual

/-- The trees are paired off, in order; labels at the same place are related. -/
inductive Forest.Related (r : α → β → Prop) : Forest α → Forest β → Prop
  | nil : Forest.Related r .nil .nil
  | cons {a b inside inside' rest rest'} : r a b → Forests.Related r inside inside' →
      Forest.Related r rest rest' → Forest.Related r (.cons a inside rest) (.cons b inside' rest')

/-- The lists are paired off, in order. -/
inductive Forests.Related (r : α → β → Prop) : Forests α → Forests β → Prop
  | nil : Forests.Related r .nil .nil
  | cons {first first' rest rest'} : Forest.Related r first first' →
      Forests.Related r rest rest' → Forests.Related r (.cons first rest) (.cons first' rest')

end

section Related

variable {r : α → β → Prop}

mutual

theorem Forest.Related.mono {r' : α → β → Prop} (hr : ∀ a b, r a b → r' a b) :
    ∀ {F : Forest α} {G : Forest β}, F.Related r G → F.Related r' G
  | _, _, .nil => .nil
  | _, _, .cons h hinside hrest => .cons (hr _ _ h) (hinside.mono hr) (hrest.mono hr)

theorem Forests.Related.mono {r' : α → β → Prop} (hr : ∀ a b, r a b → r' a b) :
    ∀ {F : Forests α} {G : Forests β}, F.Related r G → F.Related r' G
  | _, _, .nil => .nil
  | _, _, .cons hfirst hrest => .cons (hfirst.mono hr) (hrest.mono hr)

end

mutual

/-- What related labels have in common, the forests have in common. -/
theorem Forest.Related.map_eq {f : α → γ} {g : β → γ} (hr : ∀ a b, r a b → f a = g b) :
    ∀ {F : Forest α} {G : Forest β}, F.Related r G → F.map f = G.map g
  | _, _, .nil => rfl
  | _, _, .cons h hinside hrest => by
    rw [Forest.map, Forest.map, hr _ _ h, hinside.map_eq hr, hrest.map_eq hr]

theorem Forests.Related.map_eq {f : α → γ} {g : β → γ} (hr : ∀ a b, r a b → f a = g b) :
    ∀ {F : Forests α} {G : Forests β}, F.Related r G → F.map f = G.map g
  | _, _, .nil => rfl
  | _, _, .cons hfirst hrest => by
    rw [Forests.map, Forests.map, hfirst.map_eq hr, hrest.map_eq hr]

end

mutual

/-- Other labels on the one side. -/
theorem Forest.Related.map_left {f : γ → α} : ∀ {F : Forest γ} {G : Forest β},
    F.Related (fun c b ↦ r (f c) b) G → (F.map f).Related r G
  | _, _, .nil => .nil
  | _, _, .cons h hinside hrest => .cons h hinside.map_left hrest.map_left

theorem Forests.Related.map_left {f : γ → α} : ∀ {F : Forests γ} {G : Forests β},
    F.Related (fun c b ↦ r (f c) b) G → (F.map f).Related r G
  | _, _, .nil => .nil
  | _, _, .cons hfirst hrest => .cons hfirst.map_left hrest.map_left

end

theorem Forest.Related.append {F' : Forest α} {G' : Forest β} :
    ∀ {F : Forest α} {G : Forest β}, F.Related r G → F'.Related r G' →
      (F.append F').Related r (G.append G')
  | _, _, .nil, h' => h'
  | _, _, .cons h hinside hrest, h' => .cons h hinside (hrest.append h')

end Related

/-! ### From the last tree on -/

mutual

/-- The labels from the last tree of a list to its first one; a node still comes before what is
inside it. -/
def Forest.laterFirst : Forest α → List α
  | .nil => []
  | .cons a inside rest => rest.laterFirst ++ a :: inside.laterFirst

/-- The labels of the lists, one list after the other. -/
def Forests.laterFirst : Forests α → List α
  | .nil => []
  | .cons first rest => first.laterFirst ++ rest.laterFirst

end

theorem Forests.laterFirst_ofList (l : List (Forest α)) :
    (Forests.ofList l).laterFirst = l.flatMap Forest.laterFirst := by
  induction l with
  | nil => rfl
  | cons F l ih => rw [Forests.ofList_cons, Forests.laterFirst, ih, List.flatMap_cons]
