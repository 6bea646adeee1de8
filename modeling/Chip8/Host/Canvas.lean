/-!
# Canvas

Model of the toolkit's canvas, as far as `Chip8Display` uses it: a drawing surface that remembers
what is drawn on it. Each rectangle gets an identifier that was never used before and lies above all
that are there; it can be recoloured and deleted by that identifier. The identifiers in use, in
order, are therefore the stack from bottom to top.

* `item?_create` and `item?_delete`: what an identifier stands for after each operation.
-/

namespace Chip8

/-- A filled rectangle with its corners. -/
structure Rectangle where
  left : Int
  upper : Int
  right : Int
  lower : Int
  fill : String
  stipple : Option String
  outline : String
  deriving DecidableEq, Repr

/-- The rectangles by identifier; a deleted one leaves a gap. -/
structure Canvas where
  items : Array (Option Rectangle)
  deriving DecidableEq, Repr

namespace Canvas

/-- Nothing drawn. -/
def empty : Canvas :=
  ⟨#[]⟩

/-- What an identifier stands for. -/
def item? (c : Canvas) (id : Nat) : Option Rectangle :=
  c.items[id]?.join

/-- The identifiers in use, from bottom to top. -/
def live (c : Canvas) : List Nat :=
  (List.range c.items.size).filter fun id => (c.item? id).isSome

/-- Draws a rectangle on top of everything. -/
def create (c : Canvas) (r : Rectangle) : Nat × Canvas :=
  (c.items.size, ⟨c.items.push (some r)⟩)

/-- Draws rectangles one on top of the other; the identifiers are in the same order. -/
def createAll (c : Canvas) (rs : List Rectangle) : Array Nat × Canvas :=
  rs.foldl (fun acc r =>
    let made := acc.2.create r
    (acc.1.push made.1, made.2)) (#[], c)

/-- Takes one rectangle away. -/
def delete (c : Canvas) (id : Nat) : Canvas :=
  ⟨c.items.setIfInBounds id none⟩

/-- Takes everything away; the identifiers stay used. -/
def deleteAll (c : Canvas) : Canvas :=
  ⟨Array.replicate c.items.size none⟩

/-- Fills one rectangle with another colour. -/
def recolor (c : Canvas) (id : Nat) (fill : String) : Canvas :=
  ⟨c.items.modify id fun item => item.map fun r => { r with fill }⟩

theorem item?_create (c : Canvas) (r : Rectangle) (id : Nat) :
    (c.create r).2.item? id = if id = c.items.size then some r else c.item? id := by
  simp only [create, item?, Array.getElem?_push]
  split <;> rfl

theorem item?_delete (c : Canvas) (i id : Nat) :
    (c.delete i).item? id = if id = i then none else c.item? id := by
  simp only [delete, item?, Array.getElem?_setIfInBounds]
  by_cases h : i = id
  · subst h
    by_cases hlt : i < c.items.size <;> simp [hlt]
  · have h' : ¬ id = i := fun e => h e.symm
    simp [h, h']

theorem item?_recolor (c : Canvas) (i id : Nat) (fill : String) :
    (c.recolor i fill).item? id =
      if id = i then (c.item? id).map fun r => { r with fill } else c.item? id := by
  simp only [recolor, item?, Array.getElem?_modify]
  by_cases h : i = id
  · subst h
    cases hi : c.items[i]? with
    | none => simp
    | some item => simp
  · have h' : ¬ id = i := fun e => h e.symm
    simp [h, h']

end Canvas

end Chip8
