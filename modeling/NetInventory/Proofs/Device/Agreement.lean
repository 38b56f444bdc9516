import Mathlib.Data.List.Perm.Basic
import NetInventory.Proofs.Device.Merging
import NetInventory.Proofs.Inventory.Outline

/-! Records that do not contradict one another. The later of two records counts only where both of
them answer a question, so where they never answer differently it is all the same in which order
they come. Times and flows need no agreement: the greatest time is the same in any order, and so is
the set of flows, though not their order.
-/

namespace NetInventory

/-- Two maps have the same value under every key that both of them have. -/
def SortedMap.Agrees {β : Type} (left right : SortedMap β) : Prop :=
  ∀ {key value other}, left.get? key = some value → right.get? key = some other → value = other

namespace DeviceRecord

/-- Two records that do not contradict each other: both may name the same hardware address and the
same IP address, and what one collector saw at one address is the same in both.
-/
structure Compatible (left right : DeviceRecord) : Prop where
  mac : left.macAddress ≠ "" → right.macAddress ≠ "" → left.macAddress = right.macAddress
  ipv4 : left.ipv4Address ≠ "" → right.ipv4Address ≠ "" → left.ipv4Address = right.ipv4Address
  lldp : left.lldp.Agrees right.lldp
  neigh : left.neigh.Agrees right.neigh
  nmap : left.nmap.Agrees right.nmap
  arp : left.arp.Agrees right.arp

-----------------------------------------------------------------------------------------
-- Questions
-----------------------------------------------------------------------------------------

section
variable {α : Type} {ask : DeviceRecord → Option α} {first other existing incoming : DeviceRecord}
  {rest others : List DeviceRecord} {answer : α}

/-- A merged record answers the question as the incoming record does, and as the existing one does
if the incoming record has no answer.
-/
def LaterAnswers (ask : DeviceRecord → Option α) : Prop :=
  ∀ existing incoming, ask (existing.merge incoming) = (ask incoming).or (ask existing)

/-- Two records that both answer the question give the same answer. -/
def Concur (ask : DeviceRecord → Option α) (left right : DeviceRecord) : Prop :=
  ∀ {answer other}, ask left = some answer → ask right = some other → answer = other

theorem Concur.symm (concur : Concur ask existing incoming) : Concur ask incoming existing :=
  fun answered otherwise => (concur otherwise answered).symm

/-- Where two records concur, the merged record has the answer of either. -/
theorem ask_merge_eq_some_iff (later : LaterAnswers ask) (concur : Concur ask existing incoming)
    : ask (existing.merge incoming) = some answer
      ↔ ask existing = some answer ∨ ask incoming = some answer := by
  rw [later]
  cases new : ask incoming with
  | none => simp
  | some found =>
      constructor
      · intro same
        exact .inr same
      · rintro (old | same)
        · rw [concur old new]
          rfl
        · exact same

/-- Records that concur pairwise come to one that has every answer that one of them has. Witness:
induction on the records, with the first two of them merged into the one that the others meet.
-/
theorem ask_foldl_merge_eq_some_iff (later : LaterAnswers ask)
    (concur : (first :: rest).Pairwise (Concur ask))
    : ask (rest.foldl merge first) = some answer
      ↔ ∃ record ∈ first :: rest, ask record = some answer := by
  induction rest generalizing first with
  | nil => simp
  | cons next rest ih =>
      obtain ⟨meets, concurRest⟩ := List.pairwise_cons.mp concur
      obtain ⟨nextMeets, concurLast⟩ := List.pairwise_cons.mp concurRest
      have step {answer : α}
          : ask (first.merge next) = some answer
            ↔ ask first = some answer ∨ ask next = some answer :=
        ask_merge_eq_some_iff later (meets next List.mem_cons_self)
      have merged : (first.merge next :: rest).Pairwise (Concur ask) := by
        refine List.pairwise_cons.mpr ⟨?_, concurLast⟩
        intro record member _ _ answered otherwise
        rcases step.mp answered with old | new
        · exact meets record (List.mem_cons_of_mem _ member) old otherwise
        · exact nextMeets record member new otherwise
      rw [List.foldl_cons, ih merged]
      simp only [List.exists_mem_cons_iff, step, or_assoc]

/-- The answer of records that concur pairwise does not depend on their order. -/
theorem ask_foldl_merge_of_perm (ask : DeviceRecord → Option α) (later : LaterAnswers ask)
    (concur : (first :: rest).Pairwise (Concur ask))
    (perm : (first :: rest).Perm (other :: others))
    : ask (rest.foldl merge first) = ask (others.foldl merge other) := by
  have concurOthers : (other :: others).Pairwise (Concur ask) :=
    (perm.pairwise_iff fun concur => concur.symm).mp concur
  refine Option.ext fun answer => ?_
  rw [ask_foldl_merge_eq_some_iff later concur, ask_foldl_merge_eq_some_iff later concurOthers]
  simp only [perm.mem_iff]

end

-----------------------------------------------------------------------------------------
-- Texts and sightings
-----------------------------------------------------------------------------------------

section
variable {first other : DeviceRecord} {rest others : List DeviceRecord}

/-- A text unless it is empty. -/
def said? (text : String) : Option String :=
  if text = "" then none else some text

theorem said?_eq_some_iff {text said : String}
    : said? text = some said ↔ text = said ∧ said ≠ "" := by
  unfold said?
  split
  next empty =>
    subst empty
    exact ⟨nofun, fun ⟨same, nonempty⟩ => absurd same.symm nonempty⟩
  next nonempty =>
    rw [Option.some.injEq]
    exact ⟨fun same => ⟨same, same ▸ nonempty⟩, And.left⟩

theorem said?_injective : Function.Injective said? := by
  intro left right same
  unfold said? at same
  split_ifs at same with leftEmpty rightEmpty
  · rw [leftEmpty, rightEmpty]
  · exact Option.some.inj same

theorem said?_laterText (existing incoming : String)
    : said? (laterText existing incoming) = (said? incoming).or (said? existing) := by
  rw [laterText_eq, said?]
  by_cases silent : incoming = "" <;> simp [said?, silent]

/-- A text of merged records does not depend on their order if none of them contradicts another. -/
theorem text_foldl_merge_of_perm (text : DeviceRecord → String)
    (later : ∀ existing incoming,
      text (existing.merge incoming) = laterText (text existing) (text incoming))
    (agree : (first :: rest).Pairwise fun left right =>
      text left ≠ "" → text right ≠ "" → text left = text right)
    (perm : (first :: rest).Perm (other :: others))
    : text (rest.foldl merge first) = text (others.foldl merge other) := by
  apply said?_injective
  refine ask_foldl_merge_of_perm (fun record => said? (text record)) ?later ?concur perm
  case later =>
    intro existing incoming
    simp only [later, said?_laterText]
  case concur =>
    refine agree.imp fun same => ?_
    intro answer otherwise answered found
    obtain ⟨rfl, nonempty⟩ := said?_eq_some_iff.mp answered
    obtain ⟨rfl, others⟩ := said?_eq_some_iff.mp found
    exact same nonempty others

/-- The same for the sightings of one kind. -/
theorem sightings_foldl_merge_of_perm {β : Type} {sightings : DeviceRecord → SortedMap β}
    (later : ∀ existing incoming,
      sightings (existing.merge incoming) = (sightings existing).union (sightings incoming))
    (agree : (first :: rest).Pairwise fun left right => (sightings left).Agrees (sightings right))
    (perm : (first :: rest).Perm (other :: others))
    : sightings (rest.foldl merge first) = sightings (others.foldl merge other) := by
  refine SortedMap.ext_get? fun ip => ?_
  refine ask_foldl_merge_of_perm (fun record => (sightings record).get? ip) ?later ?concur perm
  case later =>
    intro existing incoming
    simp only [later, SortedMap.get?_union]
  case concur =>
    refine agree.imp fun same => ?_
    intro _ _ answered found
    exact same answered found

-----------------------------------------------------------------------------------------
-- Times and flows
-----------------------------------------------------------------------------------------

theorem laterTime_le_iff {existing incoming bound : Int64}
    : laterTime existing incoming ≤ bound ↔ existing ≤ bound ∧ incoming ≤ bound := by
  simp only [laterTime, Int64.le_iff_toInt_le]
  split <;> omega

/-- The time of merged records is the least one that none of them exceeds. -/
theorem lastUpdate_foldl_merge_le_iff {bound : Int64}
    : (rest.foldl merge first).lastUpdate ≤ bound
      ↔ ∀ record ∈ first :: rest, record.lastUpdate ≤ bound := by
  induction rest generalizing first with
  | nil => simp
  | cons next rest ih =>
      rw [List.foldl_cons, ih]
      simp only [List.forall_mem_cons, merge, laterTime_le_iff, and_assoc]

theorem lastUpdate_foldl_merge_of_perm (perm : (first :: rest).Perm (other :: others))
    : (rest.foldl merge first).lastUpdate = (others.foldl merge other).lastUpdate := by
  have bounds (bound : Int64)
      : (rest.foldl merge first).lastUpdate ≤ bound
        ↔ (others.foldl merge other).lastUpdate ≤ bound := by
    simp only [lastUpdate_foldl_merge_le_iff, perm.mem_iff]
  apply Int64.le_antisymm
  · exact (bounds _).mpr (Int64.le_refl _)
  · exact (bounds _).mp (Int64.le_refl _)

theorem mem_connections_merge {existing incoming : DeviceRecord} {flow : Connection}
    : flow ∈ (existing.merge incoming).connections
      ↔ flow ∈ existing.connections ∨ flow ∈ incoming.connections := by
  by_cases present : flow ∈ existing.connections <;> simp [merge, present]

/-- The flows of merged records are those of any of them. -/
theorem mem_connections_foldl_merge {flow : Connection}
    : flow ∈ (rest.foldl merge first).connections
      ↔ ∃ record ∈ first :: rest, flow ∈ record.connections := by
  induction rest generalizing first with
  | nil => simp
  | cons next rest ih =>
      rw [List.foldl_cons, ih]
      simp only [List.exists_mem_cons_iff, mem_connections_merge, or_assoc]

-----------------------------------------------------------------------------------------
-- Any order
-----------------------------------------------------------------------------------------

/-- Records that do not contradict one another come to the same in whatever order they are merged;
only the flows may stand in another order, or more often.
-/
theorem foldl_merge_of_perm (compatible : (first :: rest).Pairwise Compatible)
    (perm : (first :: rest).Perm (other :: others))
    : (rest.foldl merge first).withoutFlows = (others.foldl merge other).withoutFlows
      ∧ ∀ flow,
        flow ∈ (rest.foldl merge first).connections
        ↔ flow ∈ (others.foldl merge other).connections := by
  constructor
  · have mac := text_foldl_merge_of_perm macAddress (fun _ _ => rfl)
      (compatible.imp Compatible.mac) perm
    have ipv4 := text_foldl_merge_of_perm ipv4Address (fun _ _ => rfl)
      (compatible.imp Compatible.ipv4) perm
    have time := lastUpdate_foldl_merge_of_perm perm
    have lldp := sightings_foldl_merge_of_perm (fun _ _ => rfl) (compatible.imp Compatible.lldp)
      perm
    have neigh := sightings_foldl_merge_of_perm (fun _ _ => rfl) (compatible.imp Compatible.neigh)
      perm
    have nmap := sightings_foldl_merge_of_perm (fun _ _ => rfl) (compatible.imp Compatible.nmap)
      perm
    have arp := sightings_foldl_merge_of_perm (fun _ _ => rfl) (compatible.imp Compatible.arp) perm
    simp only [withoutFlows, mac, ipv4, time, lldp, neigh, nmap, arp]
  · intro flow
    simp only [mem_connections_foldl_merge, perm.mem_iff]

end

/-- Three records of a device, of which one names its hardware address, one names its IP address,
and two saw it at that address, come to the same from the first to the last and the other way round;
their flows are the same too, in another order.
-/
theorem foldl_merge_of_perm_reversed
    : let flow (port : UInt16) : Connection := { (default : Connection) with clientPort := port }
      let named : DeviceRecord :=
        { withMac "aa:bb:cc:dd:ee:ff" with lastUpdate := 7, connections := [flow 1, flow 1] }
      let seen : DeviceRecord :=
        { blank with neigh := .singleton "10.0.0.5" default, connections := [flow 2, flow 1] }
      let placed : DeviceRecord := { seen with ipv4Address := "10.0.0.5", lastUpdate := 9 }
      [named, seen, placed].Pairwise Compatible
      ∧ ([seen, placed].foldl merge named).withoutFlows
        = ([seen, named].foldl merge placed).withoutFlows
      ∧ (∀ flow,
        flow ∈ ([seen, placed].foldl merge named).connections
        ↔ flow ∈ ([seen, named].foldl merge placed).connections)
      ∧ ([seen, placed].foldl merge named).connections
        ≠ ([seen, named].foldl merge placed).connections := by
  intro flow named seen placed
  have namedSeen : named.Compatible seen := ⟨nofun, nofun, nofun, nofun, nofun, nofun⟩
  have namedPlaced : named.Compatible placed := ⟨nofun, nofun, nofun, nofun, nofun, nofun⟩
  have seenPlaced : seen.Compatible placed := by
    refine ⟨nofun, nofun, nofun, ?_, nofun, nofun⟩
    intro _ _ _ found same
    exact Option.some.inj (found.symm.trans same)
  have compatible : [named, seen, placed].Pairwise Compatible := by
    simp only [List.pairwise_cons, List.forall_mem_cons]
    exact ⟨⟨namedSeen, namedPlaced, nofun⟩, ⟨seenPlaced, nofun⟩, nofun, .nil⟩
  have perm : [named, seen, placed].Perm [placed, seen, named] := List.reverse_perm _ |>.symm
  obtain ⟨same, flows⟩ := foldl_merge_of_perm compatible perm
  exact ⟨compatible, same, flows, by decide⟩

end DeviceRecord

end NetInventory
