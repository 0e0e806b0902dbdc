import Mathlib.Logic.Function.Basic
import TextAdventure.Proofs.Footprints

/-!
# Exchanges

Four commands exchange two entries of the state: the locations of two items, the counter with an
alternate counter, and the room with an alternate room.  They only rearrange what is there, so that
no number is lost in any sequence of them.  An exchange that is made once more is undone, and a
sequence of exchanges is undone in reverse order, although several of them may share an entry.  An
exchange with operands out of range is skipped either time.

Main results:

- Definition `Command.isExchange`: the four commands.
- Structure `State.Rearranges`: the same numbers in other places.
- Theorems `involutive_swapItems`, `involutive_swapCounter` and `involutive_swapRoom`: what is
  exchanged once more is undone.
- Theorem `Command.exchanges_lose_nothing`: sequences of exchanges.
-/

namespace TextAdventure

/-- The commands that exchange two entries of the state. -/
def Command.isExchange : Command → Bool
  | swapItems | swapCounter | swapRoomZero | swapRoom => true
  | _ => false

/-! ## The same numbers in other places -/

/-- From one state to the other the locations of the items are rearranged among themselves, and so
are the counter with the alternate counters and the room with the alternate rooms.  Nothing else
differs. -/
structure State.Rearranges (s t : State) : Prop where
  locations : t.locations.Perm s.locations
  counters : (t.counter :: t.altCounters.toList).Perm (s.counter :: s.altCounters.toList)
  rooms : (t.room :: t.altRooms.toList).Perm (s.room :: s.altRooms.toList)
  flags_eq : t.flags = s.flags
  chaining_eq : t.chaining = s.chaining

namespace State

theorem Rearranges.refl (s : State) : s.Rearranges s :=
  ⟨.refl _, .refl _, .refl _, rfl, rfl⟩

theorem Rearranges.trans {s t u : State} (hst : s.Rearranges t) (htu : t.Rearranges u) :
    s.Rearranges u where
  locations := htu.locations.trans hst.locations
  counters := htu.counters.trans hst.counters
  rooms := htu.rooms.trans hst.rooms
  flags_eq := htu.flags_eq.trans hst.flags_eq
  chaining_eq := htu.chaining_eq.trans hst.chaining_eq

/-- An exchange of a value with an entry of a table rearranges the value and the entries. -/
theorem perm_cons_set {α : Type} {n : Nat} (x : α) (xs : Vector α n) {i : Nat} (hi : i < n) :
    (xs[i] :: (xs.set i x).toList).Perm (x :: xs.toList) := by
  have hlength : i + 1 < (x :: xs.toList).length := by simpa using hi
  have hswap := @List.set_set_perm _ (x :: xs.toList) 0 (i + 1) (Nat.succ_pos _) hlength
  simpa [Vector.toList_set] using hswap

variable (s : State)

theorem rearranges_swapItems (a b : Nat) : s.Rearranges (s.swapItems a b) := by
  unfold swapItems
  split
  · rename_i la lb ha hb
    obtain ⟨hla, rfl⟩ := List.getElem?_eq_some_iff.1 ha
    obtain ⟨hlb, rfl⟩ := List.getElem?_eq_some_iff.1 hb
    exact ⟨List.set_set_perm hla hlb, .refl _, .refl _, rfl, rfl⟩
  · exact .refl s

theorem rearranges_swapCounter (slot : Nat) : s.Rearranges (s.swapCounter slot) := by
  unfold swapCounter
  split
  · rename_i hslot
    exact ⟨.refl _, perm_cons_set s.counter s.altCounters hslot, .refl _, rfl, rfl⟩
  · exact .refl s

theorem rearranges_swapRoom (slot : Nat) : s.Rearranges (s.swapRoom slot) := by
  unfold swapRoom
  split
  · rename_i hslot
    exact ⟨.refl _, .refl _, perm_cons_set s.room s.altRooms hslot, rfl, rfl⟩
  · exact .refl s

/-! ## Exchanges that are made once more -/

/-- Two items that are exchanged are where the other one was. -/
theorem location?_swapItems {a b la lb : Nat} (ha : s.location? a = some la)
    (hb : s.location? b = some lb) :
    (s.swapItems a b).location? a = some lb ∧ (s.swapItems a b).location? b = some la := by
  have hla : a < s.locations.length := (List.getElem?_eq_some_iff.1 ha).1
  have hlb : b < (s.moveItem a lb).locations.length := by
    simpa using (List.getElem?_eq_some_iff.1 hb).1
  have hexchanged : s.swapItems a b = (s.moveItem a lb).moveItem b la := by
    simp [swapItems, ha, hb]
  rw [hexchanged]
  refine ⟨?_, location?_moveItem_same _ la hlb⟩
  by_cases hab : a = b
  · subst hab
    rw [location?_moveItem_same _ la hlb, ← ha, hb]
  · rw [location?_moveItem_of_ne _ la hab, location?_moveItem_same _ lb hla]

/-- Two items that are exchanged twice are where they were, also when they are one and the same. -/
theorem involutive_swapItems (a b : Nat) : Function.Involutive (swapItems · a b) := by
  intro s
  have hframe := (s.changesOnly_swapItems a b).trans ((s.swapItems a b).changesOnly_swapItems a b)
  cases ha : s.location? a with
  | none => simp [swapItems, ha]
  | some la =>
    cases hb : s.location? b with
    | none => simp [swapItems, ha, hb]
    | some lb =>
      obtain ⟨hfirst, hsecond⟩ := s.location?_swapItems ha hb
      obtain ⟨ha', hb'⟩ := (s.swapItems a b).location?_swapItems hfirst hsecond
      refine ChangesOnly.eq_of_nil ⟨fun cell _ => ?_, hframe.length_eq⟩
      by_cases hcell : cell ∈ [Cell.location a, Cell.location b]
      · -- The two items are back, and nothing else has changed either time.
        simp only [List.mem_cons, List.not_mem_nil, or_false] at hcell
        rcases hcell with rfl | rfl
        · exact ha'.trans ha.symm
        · exact hb'.trans hb.symm
      · exact hframe.sameAt cell hcell

theorem involutive_swapCounter (slot : Nat) : Function.Involutive (swapCounter · slot) := by
  intro s
  by_cases hslot : slot < 9
  · simp [swapCounter, hslot]
  · simp [swapCounter, hslot]

theorem involutive_swapRoom (slot : Nat) : Function.Involutive (swapRoom · slot) := by
  intro s
  by_cases hslot : slot < 6
  · simp [swapRoom, hslot]
  · simp [swapRoom, hslot]

end State

/-! ## Commands -/

namespace Command

variable (ctx : Context)

/-- What a command makes of the state depends on the state alone. -/
theorem state_apply_congr (c : Command) (o : Operands) {p q : Progress} (h : p.state = q.state) :
    (c.apply ctx o p).state = (c.apply ctx o q).state := by
  obtain ⟨s, out⟩ := p
  obtain ⟨t, out'⟩ := q
  obtain rfl : s = t := h
  cases c with
  | message n =>
    simp only [apply]
    split <;> rfl
  | get =>
    simp only [apply]
    split_ifs <;> rfl
  | drop =>
    simp only [apply]
    split_ifs <;> rfl
  | _ => rfl

theorem state_execute_congr (c : Command) (o : Operands) {p q : Progress}
    (h : p.state = q.state) : (c.execute ctx o p).state = (c.execute ctx o q).state := by
  unfold execute
  split_ifs
  · exact h
  · exact state_apply_congr ctx c o h

/-- An exchange rearranges the state. -/
theorem rearranges_execute {c : Command} (hc : c.isExchange = true) (o : Operands) (p : Progress) :
    p.state.Rearranges (c.execute ctx o p).state := by
  refine execute_cases ctx c o p (.refl _) fun _ => ?_
  cases c with
  | swapItems => exact p.state.rearranges_swapItems _ _
  | swapCounter => exact p.state.rearranges_swapCounter _
  | swapRoomZero => exact p.state.rearranges_swapRoom 0
  | swapRoom => exact p.state.rearranges_swapRoom _
  | _ => cases hc

/-- An exchange that is executed twice is undone: it is skipped both times or neither time. -/
theorem state_execute_execute {c : Command} (hc : c.isExchange = true) (o : Operands)
    (p : Progress) : (c.execute ctx o (c.execute ctx o p)).state = p.state := by
  cases hmissing : c.missing? o ctx.world with
  | some r => rw [execute_of_missing hmissing, execute_of_missing hmissing]
  | none =>
    rw [execute_of_admitted hmissing, execute_of_admitted hmissing]
    cases c with
    | swapItems => exact State.involutive_swapItems _ _ p.state
    | swapCounter => exact State.involutive_swapCounter _ p.state
    | swapRoomZero => exact State.involutive_swapRoom 0 p.state
    | swapRoom => exact State.involutive_swapRoom _ p.state
    | _ => cases hc

/-! ## Sequences -/

/-- Execute commands one after the other. -/
def executeEach (cs : List (Command × Operands)) (p : Progress) : Progress :=
  cs.foldl (fun q entry => entry.1.execute ctx entry.2 q) p

/-- Execute commands one after the other, each of which may have no result. -/
def executeEach? (cs : List (Command × Operands)) (p : Progress) :
    Option Progress :=
  cs.foldlM (fun q entry => entry.1.execute? ctx entry.2 q) p

variable {cs : List (Command × Operands)}

/-- What a sequence of commands makes of the state depends on the state alone. -/
theorem state_executeEach_congr {p q : Progress} (h : p.state = q.state) :
    (executeEach ctx cs p).state = (executeEach ctx cs q).state := by
  induction cs generalizing p q with
  | nil => exact h
  | cons entry rest ih => exact ih (state_execute_congr ctx entry.1 entry.2 h)

/-- A sequence of exchanges rearranges the state. -/
theorem rearranges_executeEach (hcs : ∀ entry ∈ cs, entry.1.isExchange = true) (p : Progress) :
    p.state.Rearranges (executeEach ctx cs p).state := by
  induction cs generalizing p with
  | nil => exact .refl _
  | cons entry rest ih =>
    obtain ⟨hfirst, hrest⟩ := List.forall_mem_cons.1 hcs
    exact (rearranges_execute ctx hfirst entry.2 p).trans (ih hrest _)

/-- A sequence of exchanges has a result in a state with one location for each item. -/
theorem executeEach?_eq_some (hcs : ∀ entry ∈ cs, entry.1.isExchange = true) {p : Progress}
    (hitems : p.state.locations.length = ctx.world.items.length) :
    executeEach? ctx cs p = some (executeEach ctx cs p) := by
  induction cs generalizing p with
  | nil => rfl
  | cons entry rest ih =>
    obtain ⟨hfirst, hrest⟩ := List.forall_mem_cons.1 hcs
    have hkept := (rearranges_execute ctx hfirst entry.2 p).locations.length_eq
    have hstep := execute?_eq_some hitems entry.1 entry.2
    rw [executeEach?, List.foldlM_cons, hstep]
    exact ih hrest (hkept.trans hitems)

/-- A sequence of exchanges is undone in reverse order. -/
theorem state_executeEach_reverse (hcs : ∀ entry ∈ cs, entry.1.isExchange = true)
    (p : Progress) : (executeEach ctx cs.reverse (executeEach ctx cs p)).state = p.state := by
  induction cs generalizing p with
  | nil => rfl
  | cons entry rest ih =>
    obtain ⟨hfirst, hrest⟩ := List.forall_mem_cons.1 hcs
    have hback := ih hrest (entry.1.execute ctx entry.2 p)
    calc (executeEach ctx (entry :: rest).reverse (executeEach ctx (entry :: rest) p)).state
      _ = (entry.1.execute ctx entry.2 (executeEach ctx rest.reverse
            (executeEach ctx rest (entry.1.execute ctx entry.2 p)))).state := by
          simp [executeEach]
      _ = (entry.1.execute ctx entry.2 (entry.1.execute ctx entry.2 p)).state :=
          state_execute_congr ctx entry.1 entry.2 hback
      _ = p.state := state_execute_execute ctx hfirst entry.2 p

/-- Take any sequence of exchanges with any operands, in a state with one location for each item of
the world.  The sequence has a result, in which the locations of the items, the counters and the
rooms are rearranged, each among themselves, and in which nothing else has changed.  From there on
the same sequence in reverse order has a result as well, whatever has been printed, and restores the
state. -/
theorem exchanges_lose_nothing {p : Progress}
    (hitems : p.state.locations.length = ctx.world.items.length)
    (hcs : ∀ entry ∈ cs, entry.1.isExchange = true) :
    ∃ q, executeEach? ctx cs p = some q ∧ p.state.Rearranges q.state ∧
      ∀ output, ∃ r, executeEach? ctx cs.reverse ⟨q.state, output⟩ = some r ∧
        r.state = p.state := by
  have hrearranged := rearranges_executeEach ctx hcs p
  refine ⟨executeEach ctx cs p, executeEach?_eq_some ctx hcs hitems, hrearranged, fun output => ?_⟩
  have hreverse : ∀ entry ∈ cs.reverse, entry.1.isExchange = true := by simpa using hcs
  have hitems' := hrearranged.locations.length_eq.trans hitems
  refine ⟨_, executeEach?_eq_some ctx hreverse hitems', ?_⟩
  calc (executeEach ctx cs.reverse ⟨(executeEach ctx cs p).state, output⟩).state
    _ = (executeEach ctx cs.reverse (executeEach ctx cs p)).state := state_executeEach_congr ctx rfl
    _ = p.state := state_executeEach_reverse ctx hcs p

/-- Six exchanges that share entries, among them one that is out of range, and their reversal. -/
theorem exchanges_lose_nothing_larder :
    let ctx : Context := { world := World.larder, settings := {} }
    let s : State := { State.initial World.larder with counter := -1 }
    let cs : List (Command × Operands) :=
      [(swapRoomZero, ⟨9, 9⟩), (swapItems, ⟨0, 1⟩), (swapCounter, ⟨8, 0⟩), (swapItems, ⟨1, 2⟩),
        (swapRoom, ⟨0, 0⟩), (swapCounter, ⟨3, 0⟩)]
    let p : Progress := ⟨s, {}⟩
    (p.state.locations.length = ctx.world.items.length ∧
        ∀ entry ∈ cs, entry.1.isExchange = true) ∧
      ∃ q, executeEach? ctx cs p = some q ∧ p.state.Rearranges q.state ∧
        ∀ output, ∃ r, executeEach? ctx cs.reverse ⟨q.state, output⟩ = some r ∧
          r.state = p.state := by
  intro ctx s cs p
  have hitems : p.state.locations.length = ctx.world.items.length := rfl
  have hcs : ∀ entry ∈ cs, entry.1.isExchange = true := by decide
  exact ⟨⟨hitems, hcs⟩, exchanges_lose_nothing ctx hitems hcs⟩

end Command

end TextAdventure
