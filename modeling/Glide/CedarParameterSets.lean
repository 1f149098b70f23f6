import Glide.CedarIntegrity
import Glide.RtpSender

/-! Parameter sets in the Cedar decoder, which puts those it keeps in front of every slice
of an IDR picture, and not only in front of the first one. -/
namespace Glide.CedarParameterSets
open RtpPackets NalPayloads CedarRtpDecoder CedarAccessUnits CedarNalUnits CedarIntegrity RtpFeed
open Library.Runs
open SliceHeaders (firstSliceStartsFrame)
open RtpDepacketizer (andThen andThen_passed andThen_refused)
open RtpSender (SentUnit SentPacket Piece packetsFrom fragments)

/-! ### Where parameter sets belong -/

def fromFirstSlice (nals : List (List UInt8)) : List (List UInt8) :=
  nals.dropWhile fun nal => !isVcl .h264 nal

def isParameterSet (nal : List UInt8) : Bool := kindOf nal == 7 || kindOf nal == 8

def ParameterSetsFirst (nals : List (List UInt8)) : Prop :=
  ∀ nal ∈ fromFirstSlice nals, isParameterSet nal = false

/-- Parameter sets stand in front of the slices, which are those that were sent, with
nothing else behind the first of them than what was sent there. -/
structure Placed (sent submitted : List (List UInt8)) : Prop where
  first : ParameterSetsFirst submitted
  slices : submitted.filter (isVcl .h264) = sent.filter (isVcl .h264)
  between : fromFirstSlice submitted = fromFirstSlice sent

/-- A slice of an IDR picture stands behind another slice. -/
def HasLaterIdrSlice (nals : List (List UInt8)) : Prop :=
  ∃ nal ∈ (fromFirstSlice nals).tail, kindOf nal = 5

instance (nals : List (List UInt8)) : Decidable (HasLaterIdrSlice nals) := by
  unfold HasLaterIdrSlice
  infer_instance

instance (nals : List (List UInt8)) : Decidable (ParameterSetsFirst nals) := by
  unfold ParameterSetsFirst
  infer_instance

theorem fromFirstSlice_append {front : List (List UInt8)}
    (others : ∀ nal ∈ front, isVcl .h264 nal = false) (rest : List (List UInt8)) :
    fromFirstSlice (front ++ rest) = fromFirstSlice rest := by
  unfold fromFirstSlice
  rw [List.dropWhile_append_of_pos fun nal inside => by rw [others nal inside]; rfl]

theorem fromFirstSlice_cons (slice : isVcl .h264 nal = true) (rest : List (List UInt8)) :
    fromFirstSlice (nal :: rest) = nal :: rest :=
  List.dropWhile_cons_of_neg (by rw [slice]; exact Bool.false_ne_true)

/-- No slice stands in front of the first one. -/
theorem split_at_first_slice (nals : List (List UInt8)) :
    ∃ front, nals = front ++ fromFirstSlice nals ∧ (∀ nal ∈ front, isVcl .h264 nal = false) ∧
      ∀ nal ∈ (fromFirstSlice nals).head?, isVcl .h264 nal = true := by
  induction nals with
  | nil => exact ⟨[], rfl, List.forall_mem_nil _, fun nal first => nomatch first⟩
  | cons nal rest ih =>
    cases slice : isVcl .h264 nal with
    | true =>
      rw [fromFirstSlice_cons slice]
      refine ⟨[], rfl, List.forall_mem_nil _, fun other first => ?_⟩
      cases first
      exact slice
    | false =>
      obtain ⟨front, whole, others, begins⟩ := ih
      have passed : fromFirstSlice (nal :: rest) = fromFirstSlice rest :=
        List.dropWhile_cons_of_pos (by rw [slice]; rfl)
      rw [passed]
      exact ⟨nal :: front, congrArg (nal :: ·) whole, List.forall_mem_cons.2 ⟨slice, others⟩,
        begins⟩

/-! ### The parameter sets that the decoder keeps -/

structure ParameterSets where
  sps : List UInt8
  pps : List UInt8
  sps_kind : sps ≠ [] → kindOf sps = 7
  pps_kind : pps ≠ [] → kindOf pps = 8

namespace ParameterSets

def cache (nal : List UInt8) (sets : ParameterSets) : ParameterSets :=
  if seven : kindOf nal = 7 then { sets with sps := nal, sps_kind := fun _ => seven }
  else if eight : kindOf nal = 8 then { sets with pps := nal, pps_kind := fun _ => eight }
  else sets

def nals (sets : ParameterSets) : List (List UInt8) := [sets.sps, sets.pps].filter (· ≠ [])

theorem nals_are_sets (sets : ParameterSets) : ∀ nal ∈ sets.nals, isParameterSet nal = true := by
  intro nal inside
  unfold isParameterSet
  rw [nals, List.mem_filter, decide_eq_true_eq, List.mem_cons, List.mem_singleton] at inside
  obtain ⟨rfl | rfl, filled⟩ := inside
  · rw [sets.sps_kind filled]
    rfl
  · rw [sets.pps_kind filled]
    rfl

end ParameterSets

theorem not_slice_of_set (set : isParameterSet nal = true) : isVcl .h264 nal = false := by
  rw [isParameterSet, Bool.or_eq_true] at set
  rw [isVcl_h264]
  rcases set with seven | eight
  · rw [beq_iff_eq.1 seven]
    rfl
  · rw [beq_iff_eq.1 eight]
    rfl

/-! ### The access unit as it grows -/

/-- The NAL units of the access unit and the parameter sets kept. -/
structure Gathered where
  nals : List (List UInt8)
  sets : ParameterSets

namespace Gathered

/-- What stands in front of a NAL unit besides what was sent. -/
def inserted (sets : ParameterSets) (nal : List UInt8) : List (List UInt8) :=
  if kindOf nal = 5 then sets.nals else []

/-- The next NAL unit. Only one that came as a whole is kept. -/
def add (gathered : Gathered) (nal : Bool × List UInt8) : Gathered :=
  let sets := if nal.1 then gathered.sets.cache nal.2 else gathered.sets
  { nals := gathered.nals ++ inserted sets nal.2 ++ [nal.2], sets }

theorem inserted_other (sets : ParameterSets) (other : isVcl .h264 nal = false) :
    inserted sets nal = [] := by
  refine if_neg fun five => ?_
  rw [isVcl_h264, five] at other
  exact absurd other (by decide)

/-- In front of the first slice nothing is inserted. -/
theorem foldl_others (gathered : Gathered) (front : List (Bool × List UInt8))
    (others : ∀ nal ∈ front, isVcl .h264 nal.2 = false) :
    (front.foldl add gathered).nals = gathered.nals ++ front.map Prod.snd := by
  induction front generalizing gathered with
  | nil => exact (List.append_nil _).symm
  | cons nal rest ih =>
    rw [List.forall_mem_cons] at others
    rw [List.foldl_cons, ih _ others.2, List.map_cons, add]
    dsimp only
    rw [inserted_other _ others.1, List.append_nil, List.append_assoc, List.singleton_append]

theorem add_sets_of_other (gathered : Gathered) (other : isParameterSet nal.2 = false) :
    (gathered.add nal).sets = gathered.sets := by
  rw [isParameterSet, Bool.or_eq_false_iff, beq_eq_false_iff_ne, beq_eq_false_iff_ne] at other
  unfold add ParameterSets.cache
  dsimp only
  rw [dif_neg other.1, dif_neg other.2, ite_self]

/-- Behind the parameter sets those kept stay the same. -/
theorem foldl_without_sets (gathered : Gathered) (rest : List (Bool × List UInt8))
    (others : ∀ nal ∈ rest, isParameterSet nal.2 = false) :
    (rest.foldl add gathered).nals =
      gathered.nals ++ rest.flatMap fun nal => inserted gathered.sets nal.2 ++ [nal.2] := by
  induction rest generalizing gathered with
  | nil => exact (List.append_nil _).symm
  | cons nal rest ih =>
    rw [List.forall_mem_cons] at others
    have same := add_sets_of_other gathered others.1
    have grown : (gathered.add nal).nals =
        gathered.nals ++ (inserted (gathered.add nal).sets nal.2 ++ [nal.2]) :=
      List.append_assoc _ _ _
    rw [List.foldl_cons, ih _ others.2, grown, same, List.flatMap_cons, List.append_assoc]

theorem cache_nals (nal : List UInt8) (sets : ParameterSets) :
    (sets.cache nal).nals = [] ↔ sets.nals = [] ∧ isParameterSet nal = false := by
  have filled : ∀ kind : UInt8, kind ≠ 0 → kindOf nal = kind → nal ≠ [] := by
    rintro kind some_kind same rfl
    exact some_kind same.symm
  unfold ParameterSets.cache isParameterSet ParameterSets.nals
  by_cases seven : kindOf nal = 7
  · rw [dif_pos seven]
    simp [seven, filled 7 (by decide) seven]
  · rw [dif_neg seven]
    by_cases eight : kindOf nal = 8
    · rw [dif_pos eight]
      simp [eight, filled 8 (by decide) eight]
    · rw [dif_neg eight]
      simp [seven, eight]

/-- The decoder has parameter sets if it had some or was sent some as a whole. -/
theorem foldl_sets (gathered : Gathered) (nals : List (Bool × List UInt8)) :
    (nals.foldl add gathered).sets.nals = [] ↔
      gathered.sets.nals = [] ∧ ∀ nal ∈ nals, nal.1 = true → isParameterSet nal.2 = false := by
  induction nals generalizing gathered with
  | nil => exact ⟨fun none_ => ⟨none_, List.forall_mem_nil _⟩, And.left⟩
  | cons nal rest ih =>
    have one : (gathered.add nal).sets.nals = [] ↔
        gathered.sets.nals = [] ∧ (nal.1 = true → isParameterSet nal.2 = false) := by
      unfold add
      dsimp only
      cases whole : nal.1 with
      | true =>
        rw [if_pos rfl, cache_nals]
        exact and_congr_right fun _ => ⟨fun other _ => other, fun other => other rfl⟩
      | false =>
        rw [if_neg Bool.false_ne_true]
        exact ⟨fun none_ => ⟨none_, fun given => nomatch given⟩, And.left⟩
    rw [List.foldl_cons, ih, one, List.forall_mem_cons, and_assoc]

end Gathered

theorem filter_fromFirstSlice (nals : List (List UInt8)) :
    nals.filter (isVcl .h264) = (fromFirstSlice nals).filter (isVcl .h264) := by
  obtain ⟨front, whole, others, -⟩ := split_at_first_slice nals
  have none_ : front.filter (isVcl .h264) = [] :=
    List.filter_eq_nil_iff.2 fun nal inside => by rw [others nal inside]; exact Bool.false_ne_true
  conv_lhs => rw [whole, List.filter_append, none_, List.nil_append]

/-- Only what stands behind the first slice matters if the sender is in order. -/
theorem placed_iff_between (sender : ParameterSetsFirst sent) :
    Placed sent submitted ↔ fromFirstSlice submitted = fromFirstSlice sent := by
  refine ⟨Placed.between, fun between => ⟨?_, ?_, between⟩⟩
  · unfold ParameterSetsFirst
    rw [between]
    exact sender
  · rw [filter_fromFirstSlice, between, ← filter_fromFirstSlice]

/-- Behind a slice nothing is inserted unless a slice of an IDR picture finds parameter sets. -/
theorem inserted_nothing_iff (sets : ParameterSets) (later : List (Bool × List UInt8))
    (others : ∀ nal ∈ later, isParameterSet nal.2 = false) :
    (later.flatMap fun nal => Gathered.inserted sets nal.2 ++ [nal.2]) = later.map Prod.snd ↔
      ((∃ nal ∈ later.map Prod.snd, kindOf nal = 5) → sets.nals = []) := by
  constructor
  · rintro same ⟨idr, inside, five⟩
    obtain ⟨nal, among, rfl⟩ := List.mem_map.1 inside
    have absent : ∀ set, set ∉ sets.nals := by
      intro set held
      have found : set ∈ later.flatMap fun nal => Gathered.inserted sets nal.2 ++ [nal.2] := by
        refine List.mem_flatMap.2 ⟨nal, among, List.mem_append_left _ ?_⟩
        rwa [Gathered.inserted, if_pos five]
      rw [same] at found
      obtain ⟨other, own, rfl⟩ := List.mem_map.1 found
      have set_ := sets.nals_are_sets _ held
      rw [others other own] at set_
      cases set_
    exact List.eq_nil_iff_forall_not_mem.2 absent
  · intro without
    rw [List.map_eq_flatMap]
    refine List.flatMap_congr fun nal inside => ?_
    have nothing : Gathered.inserted sets nal.2 = [] := by
      unfold Gathered.inserted
      split
      · rename_i five
        exact without ⟨nal.2, List.mem_map_of_mem inside, five⟩
      · rfl
    rw [nothing, List.nil_append]

/-- What is inserted among the NAL units of a sender leaves them in place exactly when no
IDR slice but the first slice finds parameter sets. -/
theorem placed_iff (start : ParameterSets) (carried : List (Bool × List UInt8)) :
    Placed (carried.map Prod.snd)
        (carried.foldl Gathered.add ⟨[[0x09, 0x10]], start⟩).nals ↔
      ParameterSetsFirst (carried.map Prod.snd) ∧
        (HasLaterIdrSlice (carried.map Prod.snd) →
          start.nals = [] ∧ ∀ nal ∈ carried, nal.1 = true → isParameterSet nal.2 = false) := by
  have sender : Placed (carried.map Prod.snd)
      (carried.foldl Gathered.add ⟨[[0x09, 0x10]], start⟩).nals →
      ParameterSetsFirst (carried.map Prod.snd) := fun placed => by
    unfold ParameterSetsFirst
    rw [← placed.between]
    exact placed.first
  suffices exact_ : ParameterSetsFirst (carried.map Prod.snd) → (Placed (carried.map Prod.snd)
      (carried.foldl Gathered.add ⟨[[0x09, 0x10]], start⟩).nals ↔
      (HasLaterIdrSlice (carried.map Prod.snd) →
        start.nals = [] ∧ ∀ nal ∈ carried, nal.1 = true → isParameterSet nal.2 = false)) from
    ⟨fun placed => ⟨sender placed, (exact_ (sender placed)).1 placed⟩,
      fun fits => (exact_ fits.1).2 fits.2⟩
  intro setsFirst
  obtain ⟨before, whole, others, begins⟩ := split_at_first_slice (carried.map Prod.snd)
  obtain ⟨front, rest, rfl, rfl, tail⟩ := List.map_eq_append_iff.1 whole
  rw [placed_iff_between setsFirst]
  unfold HasLaterIdrSlice
  unfold ParameterSetsFirst at setsFirst
  rw [← tail] at setsFirst begins ⊢
  rw [List.forall_mem_map] at others setsFirst
  let gathered := front.foldl Gathered.add ⟨[[0x09, 0x10]], start⟩
  have sets : gathered.sets.nals = [] ↔ start.nals = [] ∧
      ∀ nal ∈ front ++ rest, nal.1 = true → isParameterSet nal.2 = false := by
    rw [Gathered.foldl_sets, List.forall_mem_append]
    exact and_congr_right fun _ =>
      ⟨fun own => ⟨own, fun nal inside _ => setsFirst nal inside⟩, And.left⟩
  have submitted : ((front ++ rest).foldl Gathered.add ⟨[[0x09, 0x10]], start⟩).nals =
      ([0x09, 0x10] :: front.map Prod.snd) ++
        rest.flatMap fun nal => Gathered.inserted gathered.sets nal.2 ++ [nal.2] := by
    rw [List.foldl_append, Gathered.foldl_without_sets _ _ setsFirst,
      Gathered.foldl_others _ _ others]
    rfl
  have delimiter : ∀ nal ∈ [0x09, 0x10] :: front.map Prod.snd, isVcl .h264 nal = false :=
    List.forall_mem_cons.2 ⟨by decide, List.forall_mem_map.2 others⟩
  rw [submitted, ← sets, fromFirstSlice_append delimiter]
  cases rest with
  | nil => exact ⟨fun _ ⟨nal, inside, _⟩ => (List.not_mem_nil inside).elim, fun _ => rfl⟩
  | cons slice later =>
    have first : isVcl .h264 slice.2 = true := begins slice.2 rfl
    have inserted : ∀ nal ∈ Gathered.inserted gathered.sets slice.2, isVcl .h264 nal = false := by
      intro nal inside
      unfold Gathered.inserted at inside
      split at inside
      · exact not_slice_of_set (gathered.sets.nals_are_sets nal inside)
      · cases inside
    rw [List.forall_mem_cons] at setsFirst
    rw [List.flatMap_cons, List.append_assoc, fromFirstSlice_append inserted,
      List.singleton_append, fromFirstSlice_cons first, List.map_cons, List.cons.injEq,
      List.tail_cons, inserted_nothing_iff gathered.sets later setsFirst.2]
    exact and_iff_right rfl

/-! ### Pieces of NAL units -/

namespace Gathered

/-- The last NAL unit goes on. -/
def extend (gathered : Gathered) (data : List UInt8) : Gathered :=
  { gathered with nals := gathered.nals.dropLast ++ [gathered.nals.getLast?.getD [] ++ data] }

def take (gathered : Gathered) : Piece → Gathered
  | .single nal => gathered.add (true, nal)
  | .aggregate _ _ nals => (nals.map fun nal => (true, nal)).foldl add gathered
  | .fragment nal earlier chunk _ =>
    if earlier = [] then gathered.add (false, nalHeader .h264 nal ++ chunk)
    else gathered.extend chunk

theorem extend_add (gathered : Gathered) (filled : nal ≠ []) (data : List UInt8) :
    (gathered.add (false, nal)).extend data = gathered.add (false, nal ++ data) := by
  unfold extend add inserted
  dsimp only
  rw [kindOf_append filled, List.dropLast_concat, List.getLast?_concat, Option.getD_some]
  rfl

theorem foldl_fragments (gathered : Gathered) (filled : nalHeader .h264 nal ≠ [])
    (some_earlier : earlier ≠ []) (chunks : List (List UInt8)) :
    (fragments nal earlier chunks).foldl take
        (gathered.add (false, nalHeader .h264 nal ++ earlier.flatten)) =
      gathered.add (false, nalHeader .h264 nal ++ (earlier ++ chunks).flatten) := by
  induction chunks generalizing earlier with
  | nil => rw [List.append_nil]; rfl
  | cons chunk later ih =>
    have next := ih (List.concat_ne_nil chunk earlier)
    rw [List.append_assoc, List.singleton_append] at next
    rw [fragments, List.foldl_cons, take, if_neg some_earlier,
      extend_add _ (List.append_ne_nil_of_left_ne_nil filled _), ← next, List.flatten_append,
      List.flatten_singleton, List.append_assoc]

end Gathered

/-- The NAL units of a part, each with whether one packet holds it. -/
def carried : RtpSender.Part → List (Bool × List UInt8)
  | .single nal => [(true, nal)]
  | .aggregate _ _ nals => nals.map fun nal => (true, nal)
  | .split nal _ => [(false, nal)]

theorem carried_nals (part : RtpSender.Part) : (carried part).map Prod.snd = part.nals := by
  cases part with
  | single nal => rfl
  | aggregate first second nals =>
    rw [carried, List.map_map]
    exact List.map_id nals
  | split nal chunks => rfl

theorem part_taken {part : RtpSender.Part} (valid : part.Valid .h264) (gathered : Gathered) :
    part.pieces.foldl Gathered.take gathered = (carried part).foldl Gathered.add gathered := by
  cases part with
  | single nal => rfl
  | aggregate first second nals => rfl
  | split nal chunks =>
    obtain ⟨sound, several, joined⟩ := valid
    obtain _ | ⟨chunk, later⟩ := chunks
    · exact absurd several (by decide)
    · have header := valid_header_ne_nil sound
      have whole := nalHeader_append_nalBody .h264 nal
      rw [← joined] at whole
      have some_chunk : [chunk] ≠ [] := List.cons_ne_nil _ _
      have rest := gathered.foldl_fragments header some_chunk later
      rw [List.flatten_singleton, List.singleton_append, whole] at rest
      exact rest

def carriedNals (unit : SentUnit .h264) : List (Bool × List UInt8) := unit.parts.flatMap carried

theorem carriedNals_nals (unit : SentUnit .h264) :
    (carriedNals unit).map Prod.snd = unit.nals := by
  rw [carriedNals, List.map_flatMap, SentUnit.nals]
  exact List.flatMap_congr fun part _ => carried_nals part

theorem pieces_taken (unit : SentUnit .h264) (gathered : Gathered) :
    unit.pieces.foldl Gathered.take gathered = (carriedNals unit).foldl Gathered.add gathered := by
  have each : ∀ (parts : List RtpSender.Part) (gathered : Gathered),
      (∀ part ∈ parts, part.Valid .h264) →
      (parts.flatMap RtpSender.Part.pieces).foldl Gathered.take gathered =
        (parts.flatMap carried).foldl Gathered.add gathered := by
    intro parts
    induction parts with
    | nil => exact fun _ _ => rfl
    | cons part rest ih =>
      intro gathered valid
      rw [List.forall_mem_cons] at valid
      rw [List.flatMap_cons, List.flatMap_cons, List.foldl_append, List.foldl_append,
        part_taken valid.1, ih _ valid.2]
  exact each unit.parts gathered unit.valid

/-! ### Pieces in the decoder -/

/-- The access unit and the parameter sets at hand. -/
structure Holds (gathered : Gathered) (assembly : Assembly) : Prop where
  nals : nalUnits (delimited assembly.accessUnit) = gathered.nals
  sps : assembly.sps = gathered.sets.sps
  pps : assembly.pps = gathered.sets.pps

/-- What a NAL unit that is taken leaves alone. -/
structure Alike (before after : Assembly) : Prop where
  log : after.log = before.log
  packets : after.packets = before.packets
  currentTimestamp : after.currentTimestamp = before.currentTimestamp
  haveTimestamp : after.haveTimestamp = before.haveTimestamp
  droppingTimestamp : after.droppingTimestamp = before.droppingTimestamp

theorem Alike.trans (first : Alike before between) (second : Alike between after) :
    Alike before after where
  log := second.log.trans first.log
  packets := second.packets.trans first.packets
  currentTimestamp := second.currentTimestamp.trans first.currentTimestamp
  haveTimestamp := second.haveTimestamp.trans first.haveTimestamp
  droppingTimestamp := second.droppingTimestamp.trans first.droppingTimestamp

/-- The picture is dropped from here on. -/
structure Drops (timestamp : UInt32) (before after : Assembly) : Prop where
  dropping : after.droppingTimestamp = true
  dropTimestamp : after.dropTimestamp = timestamp
  log : after.log = .reset :: before.log

/-- The NAL units are taken. -/
structure Takes (gathered : Gathered) (before after : Assembly) : Prop where
  alike : Alike before after
  holds : Holds gathered after

/-- The picture is dropped, or the NAL units are taken as `outcome` says. -/
def DropsOr (timestamp : UInt32) (before : Assembly) (outcome : Assembly → Prop)
    (result : Bool × Assembly) : Prop :=
  result.1 = false ∧ Drops timestamp before result.2 ∨ result.1 = true ∧ outcome result.2

theorem delimited_append (unit : List CedarRtpDecoder.Part) (part : CedarRtpDecoder.Part) :
    delimited (unit ++ [part]) = unit ++ [part] := if_neg (List.concat_ne_nil _ _)

theorem nalUnits_withParameterSet (nal : List UInt8) (unit : List CedarRtpDecoder.Part) :
    nalUnits (delimited (withParameterSet nal unit)) =
      nalUnits (delimited unit) ++ [nal].filter (· ≠ []) := by
  unfold withParameterSet
  by_cases empty : nal = []
  · simp [empty]
  · rw [if_neg empty, delimited_append, nalUnits_append]
    simp [empty, joinPart]

theorem admitNal_takes (kind : UInt8) (nal : List UInt8) (timestamp : UInt32)
    (holds : Holds gathered assembly) :
    DropsOr timestamp assembly (fun after => Alike assembly after ∧
        after.fuStarted = assembly.fuStarted ∧
        Holds ⟨gathered.nals ++ if kind = 5 then gathered.sets.nals else [], gathered.sets⟩ after)
      (admitNal kind nal timestamp assembly) := by
  unfold admitNal
  by_cases other : (!nalIsVcl kind) = true
  · rw [if_pos other]
    have unlike : ¬ kind = 5 := by
      rintro rfl
      exact absurd other (by decide)
    rw [if_neg unlike, List.append_nil]
    exact .inr ⟨rfl, ⟨rfl, rfl, rfl, rfl, rfl⟩, rfl, holds⟩
  · rw [if_neg other]
    by_cases awaits : (assembly.requireIdr && kind ≠ 5) = true
    · rw [if_pos awaits]
      exact .inl ⟨rfl, rfl, rfl, rfl⟩
    · rw [if_neg awaits]
      by_cases headless : (!assembly.accessUnitHasVcl && !firstSliceStartsFrame nal) = true
      · rw [if_pos headless]
        exact .inl ⟨rfl, rfl, rfl, rfl⟩
      · rw [if_neg headless]
        refine .inr ⟨rfl, ?_⟩
        dsimp only
        by_cases five : kind = 5
        · rw [if_pos five, if_pos five]
          refine ⟨⟨rfl, rfl, rfl, rfl, rfl⟩, rfl, ?_, holds.sps, holds.pps⟩
          change nalUnits (delimited (withParameterSet assembly.pps
            (withParameterSet assembly.sps assembly.accessUnit))) = _
          rw [nalUnits_withParameterSet, nalUnits_withParameterSet, holds.nals, holds.sps,
            holds.pps, List.append_assoc, ← List.filter_append]
          rfl
        · rw [if_neg five, if_neg five, List.append_nil]
          exact ⟨⟨rfl, rfl, rfl, rfl, rfl⟩, rfl, holds.nals, holds.sps, holds.pps⟩

theorem holds_appendNal (holds : Holds gathered assembly) (nal : List UInt8) :
    Holds ⟨gathered.nals ++ [nal], gathered.sets⟩ (appendNal nal assembly) := by
  refine ⟨?_, holds.sps, holds.pps⟩
  change nalUnits (delimited (delimited assembly.accessUnit ++ [_])) = _
  rw [delimited_append, nalUnits_append, holds.nals]
  rfl

theorem holds_continueFragment (holds : Holds gathered assembly) (filled : assembly.accessUnit ≠ [])
    (finish : Bool) (data : List UInt8) :
    Holds (gathered.extend data) (continueFragment finish data assembly) := by
  refine ⟨?_, holds.sps, holds.pps⟩
  have same : delimited assembly.accessUnit = assembly.accessUnit := if_neg filled
  change nalUnits (delimited (assembly.accessUnit ++ [_])) = _
  rw [delimited_append, nalUnits_append, ← same, holds.nals]
  rfl

theorem holds_cacheParameterSet (holds : Holds gathered assembly) (nal : List UInt8) :
    Holds { gathered with sets := gathered.sets.cache nal } (cacheParameterSet nal assembly) ∧
      Alike assembly (cacheParameterSet nal assembly) ∧
      (cacheParameterSet nal assembly).fuStarted = assembly.fuStarted := by
  have cached : cacheParameterSet nal assembly =
      if nal = [] then assembly
      else if kindOf nal = 7 then { assembly with sps := nal }
      else if kindOf nal = 8 then { assembly with pps := nal }
      else assembly := rfl
  rw [cached]
  unfold ParameterSets.cache
  by_cases empty : nal = []
  · have neither : ¬ kindOf nal = 7 ∧ ¬ kindOf nal = 8 := by
      rw [empty]
      decide
    rw [if_pos empty, dif_neg neither.1, dif_neg neither.2]
    exact ⟨holds, ⟨rfl, rfl, rfl, rfl, rfl⟩, rfl⟩
  · rw [if_neg empty]
    by_cases seven : kindOf nal = 7
    · rw [dif_pos seven, if_pos seven]
      exact ⟨⟨holds.nals, rfl, holds.pps⟩, ⟨rfl, rfl, rfl, rfl, rfl⟩, rfl⟩
    · rw [dif_neg seven, if_neg seven]
      by_cases eight : kindOf nal = 8
      · rw [dif_pos eight, if_pos eight]
        exact ⟨⟨holds.nals, holds.sps, rfl⟩, ⟨rfl, rfl, rfl, rfl, rfl⟩, rfl⟩
      · rw [dif_neg eight, if_neg eight]
        exact ⟨holds, ⟨rfl, rfl, rfl, rfl, rfl⟩, rfl⟩

/-- A NAL unit that comes as a whole. -/
theorem appendWholeNal_takes (timestamp : UInt32) (holds : Holds gathered assembly)
    (closed : assembly.fuStarted = false) (nal : List UInt8) :
    DropsOr timestamp assembly
      (fun after => Takes (gathered.add (true, nal)) assembly after ∧ after.fuStarted = false)
      (appendWholeNal (kindOf nal) nal timestamp assembly) := by
  obtain ⟨cached, unlike, still⟩ := holds_cacheParameterSet holds nal
  unfold appendWholeNal
  obtain ⟨refused, drops⟩ | ⟨passed, alike, started, admitted⟩ :=
    admitNal_takes (kindOf nal) nal timestamp cached
  · rw [andThen_refused refused]
    exact .inl ⟨refused, drops.dropping, drops.dropTimestamp, drops.log.trans (by rw [unlike.log])⟩
  · rw [andThen_passed passed]
    refine .inr ⟨rfl, ⟨unlike.trans ⟨alike.log, alike.packets, alike.currentTimestamp,
      alike.haveTimestamp, alike.droppingTimestamp⟩, holds_appendNal admitted nal⟩, ?_⟩
    exact started.trans (still.trans closed)

theorem appendStapNals_takes (timestamp : UInt32) (nals : List (List UInt8))
    (holds : Holds gathered assembly) (closed : assembly.fuStarted = false) :
    DropsOr timestamp assembly
      (fun after => Takes ((nals.map fun nal => (true, nal)).foldl Gathered.add gathered) assembly
        after ∧ after.fuStarted = false)
      (appendStapNals timestamp (nals.map fun nal => (byteAt nal 0, nal)) assembly) := by
  induction nals generalizing gathered assembly with
  | nil => exact .inr ⟨rfl, ⟨⟨rfl, rfl, rfl, rfl, rfl⟩, holds⟩, closed⟩
  | cons nal rest ih =>
    rw [List.map_cons, List.map_cons, List.foldl_cons, appendStapNals]
    change DropsOr timestamp assembly _
      (andThen (appendWholeNal (kindOf nal) nal timestamp assembly) _)
    obtain ⟨refused, drops⟩ | ⟨passed, takes, still⟩ :=
      appendWholeNal_takes timestamp holds closed nal
    · rw [andThen_refused refused]
      exact .inl ⟨refused, drops⟩
    · rw [andThen_passed passed]
      obtain ⟨refused, drops⟩ | ⟨going, more, ended⟩ := ih takes.holds still
      · exact .inl ⟨refused, drops.dropping, drops.dropTimestamp,
          drops.log.trans (congrArg _ takes.alike.log)⟩
      · exact .inr ⟨going, ⟨takes.alike.trans more.alike, more.holds⟩, ended⟩

theorem stapNals_units (behind : UInt8) {nals : List (List UInt8)}
    (fit : ∀ nal ∈ nals, nal ≠ [] ∧ nal.length ≤ 65535) :
    stapNals behind (nals.flatMap fun nal => bytesU16 nal.length ++ nal) =
      nals.map fun nal => (byteAt nal 0, nal) := by
  induction nals with
  | nil => simp [stapNals]
  | cons nal rest ih =>
    rw [List.forall_mem_cons] at fit
    obtain ⟨first, more, rfl⟩ := List.exists_cons_of_ne_nil fit.1.1
    have short := fit.1.2
    have size : (UInt8.ofNat ((first :: more).length / 256)).toNat * 256 +
        (UInt8.ofNat (first :: more).length).toNat = (first :: more).length := by
      rw [UInt8.toNat_ofNat', UInt8.toNat_ofNat']
      omega
    rw [List.flatMap_cons, bytesU16, List.append_assoc, List.cons_append, List.cons_append,
      List.nil_append, stapNals, size]
    simp only [List.length_append, List.drop_left, List.take_left, ih fit.2]
    rw [if_neg (by omega)]
    rfl

theorem appendForm_of_fragment (behind : UInt8)
    (form : h264Form payload = .fragment start finish header data)
    (timestamp : UInt32) (assembly : Assembly) :
    ∃ first, header = [first] ∧ appendForm behind payload timestamp assembly =
      appendFragment start finish first data timestamp assembly := by
  cases payload with
  | nil => cases form
  | cons first rest =>
    unfold h264Form at form
    dsimp only at form
    by_cases single : 1 ≤ nalType .h264 first ∧ nalType .h264 first ≤ 23
    · rw [if_pos single] at form
      cases form
    · rw [if_neg single] at form
      by_cases aggregate : nalType .h264 first = 24
      · rw [if_pos aggregate] at form
        cases form
      · rw [if_neg aggregate] at form
        by_cases fragment : nalType .h264 first = 28
        · rw [if_pos fragment] at form
          cases rest with
          | nil => cases form
          | cons fuHeader rest =>
            cases form
            exact ⟨_, rfl, (if_neg single).trans ((if_neg aggregate).trans (if_pos fragment))⟩
        · rw [if_neg fragment] at form
          cases form

/-- The packet leaves a NAL unit open that later fragments go on with. -/
def Open (timestamp : UInt32) (assembly : Assembly) : Prop :=
  assembly.fuStarted = true ∧ assembly.fuTimestamp = timestamp ∧ assembly.accessUnit ≠ []

/-- What is not a fragment ends the one that was open. -/
theorem closed_takes {piece : Piece} (ends : piece.Ends)
    (outcome : DropsOr timestamp { assembly with fuStarted := false }
      (fun after => Takes taken { assembly with fuStarted := false } after ∧
        after.fuStarted = false) result) :
    DropsOr timestamp assembly (fun after => Takes taken assembly after ∧
      (piece.Ends → after.fuStarted = false) ∧ (¬ piece.Ends → Open timestamp after)) result := by
  obtain ⟨refused, drops⟩ | ⟨passed, takes, still⟩ := outcome
  · exact .inl ⟨refused, drops.dropping, drops.dropTimestamp, drops.log⟩
  · have alike := takes.alike
    exact .inr ⟨passed, ⟨⟨alike.log, alike.packets, alike.currentTimestamp, alike.haveTimestamp,
      alike.droppingTimestamp⟩, takes.holds⟩, fun _ => still, fun goes_on => absurd ends goes_on⟩

/-- What a piece of the sender comes to, if what it goes on with is open. -/
theorem appendForm_takes (behind : UInt8) {piece : Piece} (valid : piece.Valid .h264)
    (timestamp : UInt32)
    (holds : Holds gathered assembly) (continues : ¬ piece.Starts → Open timestamp assembly) :
    DropsOr timestamp assembly (fun after => Takes (gathered.take piece) assembly after ∧
        (piece.Ends → after.fuStarted = false) ∧ (¬ piece.Ends → Open timestamp after))
      (appendForm behind (piece.payload .h264) timestamp assembly) := by
  have closed : Holds gathered { assembly with fuStarted := false } :=
    ⟨holds.nals, holds.sps, holds.pps⟩
  cases piece with
  | single nal =>
    obtain ⟨filled, low, high⟩ := valid
    obtain ⟨first, rest, rfl⟩ := List.exists_cons_of_ne_nil filled
    have form : appendForm behind (first :: rest) timestamp assembly =
        appendWholeNal (kindOf (first :: rest)) (first :: rest) timestamp
          { assembly with fuStarted := false } := if_pos ⟨low, high⟩
    rw [Piece.payload, form]
    exact closed_takes trivial (appendWholeNal_takes timestamp closed rfl (first :: rest))
  | aggregate first second nals =>
    obtain ⟨kind, fit⟩ := valid
    have form : appendForm behind (aggregatePayload .h264 first second nals) timestamp assembly =
        appendStapNals timestamp (nals.map fun nal => (byteAt nal 0, nal))
          { assembly with fuStarted := false } := by
      change nalType .h264 first = 24 at kind
      have other : ¬ (1 ≤ nalType .h264 first ∧ nalType .h264 first ≤ 23) := by
        rw [kind]
        decide
      rw [← stapNals_units behind fun nal inside => ⟨(fit nal inside).1.1, (fit nal inside).2⟩]
      exact (if_neg other).trans (if_pos kind)
    rw [Piece.payload, form]
    exact closed_takes trivial (appendStapNals_takes timestamp nals closed rfl)
  | fragment nal earlier chunk later =>
    have fields : h264Form (fragmentPayload .h264 nal earlier.isEmpty later.isEmpty chunk) = _ :=
      payloadForm_fragment valid.1 earlier.isEmpty later.isEmpty chunk
    obtain ⟨first, header, form⟩ := appendForm_of_fragment behind fields timestamp assembly
    rw [Piece.payload, form]
    cases earlier with
    | nil =>
      have taken : gathered.take (.fragment nal [] chunk later) =
          (gathered.add (false, [first])).extend chunk := by
        rw [gathered.extend_add (List.cons_ne_nil _ _), ← header]
        rfl
      rw [taken, appendFragment, List.isEmpty_nil, if_pos rfl]
      obtain ⟨refused, drops⟩ | ⟨passed, alike, started, admitted⟩ :=
        admitNal_takes (nalType .h264 first) (first :: chunk) timestamp holds
      · rw [andThen_refused refused]
        exact .inl ⟨refused, drops⟩
      · rw [andThen_passed passed]
        have begun := holds_appendNal admitted [first]
        have opened : Holds (gathered.add (false, [first]))
            { appendNal [first] (admitNal (nalType .h264 first) (first :: chunk) timestamp
              assembly).2 with fuStarted := true, fuTimestamp := timestamp } :=
          ⟨begun.nals, begun.sps, begun.pps⟩
        have going := holds_continueFragment opened (List.concat_ne_nil _ _) later.isEmpty chunk
        refine .inr ⟨rfl, ⟨⟨alike.log, alike.packets, alike.currentTimestamp,
          alike.haveTimestamp, alike.droppingTimestamp⟩, going⟩, fun ends => ?_, fun goes_on => ?_⟩
        · exact if_pos (List.isEmpty_iff.2 ends)
        · exact ⟨if_neg (mt List.isEmpty_iff.1 goes_on), rfl, List.concat_ne_nil _ _⟩
    | cons before rest =>
      obtain ⟨started, stamped, filled⟩ := continues (List.cons_ne_nil _ _)
      have found : ¬ (!assembly.fuStarted || assembly.fuTimestamp ≠ timestamp) = true := by
        simp [started, stamped]
      rw [appendFragment, List.isEmpty_cons, if_neg Bool.false_ne_true, if_neg found]
      refine .inr ⟨rfl, ⟨⟨rfl, rfl, rfl, rfl, rfl⟩,
        holds_continueFragment holds filled later.isEmpty chunk⟩, fun ends => ?_, fun goes_on => ?_⟩
      · exact if_pos (List.isEmpty_iff.2 ends)
      · exact ⟨(if_neg (mt List.isEmpty_iff.1 goes_on)).trans started, stamped,
          List.concat_ne_nil _ _⟩

/-! ### The packets of an access unit -/

/-- The events that were added all pass for submissions of these NAL units under this
timestamp, or for something else. -/
def Made (timestamp : UInt32) (start : List Event) (passes : List (List UInt8) → Prop)
    (log : List Event) : Prop :=
  ∃ added, log = added ++ start ∧ ∀ unit, .submitted unit timestamp ∈ added → passes (nalUnits unit)

/-- Nothing was submitted under this timestamp. -/
abbrev Quiet (timestamp : UInt32) (start : List Event) : List Event → Prop :=
  Made timestamp start fun _ => False

theorem Quiet.made (quiet : Quiet timestamp start log) : Made timestamp start passes log := by
  obtain ⟨added, same, nothing⟩ := quiet
  exact ⟨added, same, fun unit inside => (nothing unit inside).elim⟩

theorem Made.cons (made : Made timestamp start passes log)
    (passing : ∀ unit, event = .submitted unit timestamp → passes (nalUnits unit)) :
    Made timestamp start passes (event :: log) := by
  obtain ⟨added, rfl, all⟩ := made
  refine ⟨event :: added, rfl, fun unit inside => ?_⟩
  rcases List.mem_cons.1 inside with same | earlier
  · exact passing unit same.symm
  · exact all unit earlier

theorem quiet_submitAccessUnit (setup : Setup) (quiet : Quiet timestamp start assembly.log)
    (other : assembly.currentTimestamp ≠ timestamp) :
    Quiet timestamp start (submitAccessUnit setup assembly).2.log := by
  obtain same | ⟨same, -⟩ | submits := submitAccessUnit_cases setup assembly
  · rw [same]
    exact quiet
  · rw [same]
    exact quiet.cons nofun
  · rw [submits.log]
    refine quiet.cons fun unit same => ?_
    cases same
    exact other rfl

/-- The decoder in front of a packet that is neither skipped nor late, in terms of the
access unit that the packet is put into. -/
structure Ready (setup : Setup) (timestamp : UInt32) (sequence : UInt16) (gathered : Gathered)
    (start : List Event) (decoder : Decoder) : Prop where
  keeps : decoder.assembly.droppingTimestamp = false
  onTime : ¬ sequenceDelta decoder sequence < 0
  quiet : Quiet timestamp start
    (turnTo setup timestamp (checkSequence sequence decoder).assembly).2.log
  holds : (turnTo setup timestamp (checkSequence sequence decoder).assembly).1 = true →
    Holds gathered (turnTo setup timestamp (checkSequence sequence decoder).assembly).2

/-- The access unit is at hand, as far as it came. -/
structure Building (timestamp : UInt32) (gathered : Gathered) (start : List Event)
    (assembly : Assembly) : Prop where
  haveTimestamp : assembly.haveTimestamp = true
  currentTimestamp : assembly.currentTimestamp = timestamp
  keeps : assembly.droppingTimestamp = false
  holds : Holds gathered assembly
  quiet : Quiet timestamp start assembly.log

/-- The marker submits the access unit, if anything. -/
theorem submitIfMarked_made (setup : Setup) (building : Building timestamp gathered start assembly)
    (marker : Bool) :
    Made timestamp start (· = gathered.nals) (submitIfMarked setup marker assembly).2.log := by
  unfold submitIfMarked
  split
  · rename_i marked
    obtain same | ⟨same, -⟩ | submits := submitAccessUnit_cases setup assembly
    · rw [same]
      exact building.quiet.made
    · rw [same]
      exact building.quiet.made.cons nofun
    · rw [submits.log]
      refine building.quiet.made.cons fun unit same => ?_
      cases same
      have filled : delimited assembly.accessUnit = assembly.accessUnit := if_neg marked.2.1
      rw [← building.holds.nals, filled]
  · exact building.quiet.made

/-- What becomes of one packet. -/
inductive PacketTaken (timestamp : UInt32) (piece : Piece) (marker : Bool) (gathered : Gathered)
    (start : List Event) (result : Bool × Assembly) : Prop where
  | dropped (quiet : Quiet timestamp start result.2.log)
      (dropping : result.1 = true →
        result.2.droppingTimestamp = true ∧ result.2.dropTimestamp = timestamp)
  | taken (unmarked : marker = false) (going : result.1 = true)
      (building : Building timestamp (gathered.take piece) start result.2)
      (leaves : ¬ piece.Ends → Open timestamp result.2)
  | last (marked : marker = true)
      (made : Made timestamp start (· = (gathered.take piece).nals) result.2.log)

theorem packet_taken {setup : Setup} (behind : UInt8) {sequence : UInt16} {piece : Piece}
    (ready : Ready setup timestamp sequence gathered start decoder) (valid : piece.Valid .h264)
    (continues : ¬ piece.Starts → Open timestamp
      (turnTo setup timestamp (checkSequence sequence decoder).assembly).2) (marker : Bool) :
    PacketTaken timestamp piece marker gathered start
      (appendPacket setup behind ⟨marker, sequence, timestamp, piece.payload .h264⟩
        (checkSequence sequence decoder).assembly) := by
  have keeps := (turnTo_unturned setup timestamp
    (checkSequence sequence decoder).assembly).droppingTimestamp
  have still : (checkSequence sequence decoder).assembly.droppingTimestamp = false := by
    unfold checkSequence
    split <;> exact ready.keeps
  unfold appendPacket andThen
  by_cases going : (turnTo setup timestamp (checkSequence sequence decoder).assembly).1 = true
  · rw [if_pos going]
    have holds := ready.holds going
    have quiet := ready.quiet
    generalize (turnTo setup timestamp (checkSequence sequence decoder).assembly).2 = turned at *
    let packet : RtpPacket := ⟨marker, sequence, timestamp, piece.payload .h264⟩
    have accepted : Holds gathered (accept packet turned) := ⟨holds.nals, holds.sps, holds.pps⟩
    have heard : Quiet timestamp start (accept packet turned).log := quiet.cons nofun
    obtain ⟨refused, drops⟩ | ⟨passed, takes, ends, leaves⟩ :=
      appendForm_takes behind valid timestamp accepted fun goes_on => continues goes_on
    · dsimp only
      rw [if_neg (by rw [refused]; exact Bool.false_ne_true)]
      refine .dropped ?_ fun _ => ⟨drops.dropping, drops.dropTimestamp⟩
      rw [drops.log]
      exact heard.cons nofun
    · dsimp only
      rw [if_pos passed]
      have building : Building timestamp (gathered.take piece) start
          (appendForm behind (piece.payload .h264) timestamp (accept packet turned)).2 := by
        refine ⟨takes.alike.haveTimestamp, takes.alike.currentTimestamp,
          takes.alike.droppingTimestamp.trans (keeps.trans still), takes.holds, ?_⟩
        rw [takes.alike.log]
        exact heard
      cases marker with
      | true => exact .last rfl (submitIfMarked_made setup building true)
      | false =>
        have unmarked : submitIfMarked setup false (appendForm behind (piece.payload .h264)
            timestamp (accept packet turned)).2 = (true, _) := if_neg fun marked => nomatch marked.1
        exact .taken rfl (by rw [unmarked]) (by rw [unmarked]; exact building)
          (by rw [unmarked]; exact leaves)
  · rw [if_neg going]
    exact .dropped ready.quiet fun stopped => absurd stopped going

/-! ### Runs over an access unit -/

def sentPacket (sequence : UInt16) (packet : SentPacket) : RtpPacket where
  marker := packet.marker
  sequence := sequence
  timestamp := packet.timestamp
  payload := packet.piece.payload .h264

/-- The datagrams of packets with consecutive numbers. -/
def datagrams (header : Nat → HeaderOptions) (sequence : UInt16) (index : Nat) :
    List SentPacket → List (List UInt8)
  | [] => []
  | packet :: rest =>
    rtpBytes (header index) (sentPacket sequence packet) ::
      datagrams header (sequence + 1) (index + 1) rest

/-- The decoder once a packet was received that is not skipped. -/
def received (decoder : Decoder) : Decoder :=
  { countPacket decoder with
    assembly := { (countPacket decoder).assembly with droppingTimestamp := false } }

/-- The picture of this timestamp is dropped. -/
def Skips (timestamp : UInt32) (decoder : Decoder) : Prop :=
  decoder.assembly.droppingTimestamp = true ∧ timestamp = decoder.assembly.dropTimestamp

section Handling
variable (setup : Setup) {packet : SentPacket} (valid : packet.piece.Valid .h264)
include valid

theorem handle_skipped (skips : Skips packet.timestamp decoder) (options : HeaderOptions)
    (sequence : UInt16) :
    handleRtpPacket setup (rtpBytes options (sentPacket sequence packet)) decoder =
      (true, { countPacket decoder with assembly :=
        { (countPacket decoder).assembly with log := .skipped :: decoder.assembly.log } }) := by
  have filled : (sentPacket sequence packet).payload ≠ [] := RtpSender.payload_ne_nil valid
  unfold handleRtpPacket
  rw [parseRtpPacket_rtpBytes _ _ filled]
  exact (if_neg filled).trans (if_pos skips)

theorem handle_ready {sequence : UInt16} (takes : ¬ Skips packet.timestamp decoder)
    (options : HeaderOptions) (onTime : ¬ sequenceDelta (received decoder) sequence < 0) :
    let checked := checkSequence sequence (received decoder)
    let result := appendPacket setup
      (byteBehind setup (rtpBytes options (sentPacket sequence packet)) decoder)
      (sentPacket sequence packet) checked.assembly
    handleRtpPacket setup (rtpBytes options (sentPacket sequence packet)) decoder =
      (result.1, { checked with assembly := result.2 }) := by
  have filled : (sentPacket sequence packet).payload ≠ [] := RtpSender.payload_ne_nil valid
  unfold handleRtpPacket
  rw [parseRtpPacket_rtpBytes _ _ filled]
  exact (if_neg filled).trans ((if_neg takes).trans (if_neg onTime))

end Handling

/-- A picture that is dropped is dropped to its end. -/
theorem skipped_run (setup : Setup) (header : Nat → HeaderOptions) (packets : List SentPacket)
    (same : ∀ packet ∈ packets, packet.timestamp = timestamp ∧ packet.piece.Valid .h264)
    (sequence : UInt16) (index : Nat) (skips : Skips timestamp decoder)
    (quiet : Quiet timestamp start decoder.assembly.log) :
    Quiet timestamp start ((datagrams header sequence index packets).foldl (cedarStep setup)
      ⟨decoder, true⟩).decoder.assembly.log := by
  induction packets generalizing decoder sequence index with
  | nil => exact quiet
  | cons packet rest ih =>
    rw [List.forall_mem_cons] at same
    obtain ⟨⟨rfl, valid⟩, others⟩ := same
    have handled := handle_skipped setup valid skips (header index) sequence
    have step : cedarStep setup ⟨decoder, true⟩ (rtpBytes (header index)
        (sentPacket sequence packet)) = ⟨_, true⟩ := (if_pos rfl).trans (by rw [handled])
    rw [datagrams, List.foldl_cons, step]
    exact ih others _ _ skips (quiet.cons nofun)

/-- Behind a packet that was taken the next one finds the access unit as it is. -/
theorem ready_next (setup : Setup) (decoder : Decoder)
    (building : Building timestamp gathered start decoder.assembly)
    (known : decoder.haveSequence = true) :
    Ready setup timestamp decoder.expectedSequence gathered start (received decoder) ∧
      (turnTo setup timestamp
        (checkSequence decoder.expectedSequence (received decoder)).assembly).2 =
        (received decoder).assembly := by
  have none_apart : sequenceDelta (received decoder) decoder.expectedSequence = 0 := by
    have both : (received decoder).haveSequence = true := known
    have expected : (received decoder).expectedSequence = decoder.expectedSequence := rfl
    rw [sequenceDelta, if_pos both, expected, UInt16.sub_self]
    rfl
  have checked : (checkSequence decoder.expectedSequence (received decoder)).assembly =
      (received decoder).assembly := by
    unfold checkSequence
    rw [none_apart, if_neg (by decide)]
  have stays : turnTo setup timestamp (received decoder).assembly =
      (true, (received decoder).assembly) :=
    if_neg fun turns => turns.2.1 building.currentTimestamp.symm
  have holds := building.holds
  refine ⟨⟨rfl, by rw [none_apart]; decide, ?_, fun _ => ?_⟩, by rw [checked, stays]⟩
  · rw [checked, stays]
    exact building.quiet
  · rw [checked, stays]
    exact ⟨holds.nals, holds.sps, holds.pps⟩

theorem packetsFrom_sent (timestamp : UInt32) (before : List (List UInt8)) {pieces : List Piece}
    (valid : ∀ piece ∈ pieces, piece.Valid .h264) :
    ∀ packet ∈ packetsFrom timestamp before pieces,
      packet.timestamp = timestamp ∧ packet.piece.Valid .h264 := by
  induction pieces generalizing before with
  | nil => exact List.forall_mem_nil _
  | cons piece rest ih =>
    rw [List.forall_mem_cons] at valid
    rw [packetsFrom, List.forall_mem_cons]
    exact ⟨⟨rfl, valid.1⟩, ih _ valid.2⟩

/-- Piece by piece the access unit takes in what the sender put into it, until it is
dropped or submitted. -/
theorem pieces_made (setup : Setup) (header : Nat → HeaderOptions) {pieces : List Piece}
    (adjacent : pieces.IsChain Piece.Adjacent) (valid : ∀ piece ∈ pieces, piece.Valid .h264)
    (before : List (List UInt8)) (sequence : UInt16) (index : Nat)
    (quiet : Quiet timestamp start decoder.assembly.log)
    (ready : ¬ Skips timestamp decoder →
      Ready setup timestamp sequence gathered start (received decoder))
    (continues : ∀ piece ∈ pieces.head?, ¬ piece.Starts → Open timestamp
      (turnTo setup timestamp (checkSequence sequence (received decoder)).assembly).2) :
    Made timestamp start (· = (pieces.foldl Gathered.take gathered).nals)
      ((datagrams header sequence index (packetsFrom timestamp before pieces)).foldl
        (cedarStep setup) ⟨decoder, true⟩).decoder.assembly.log := by
  induction pieces generalizing decoder before sequence index gathered with
  | nil => exact quiet.made
  | cons piece after ih =>
    by_cases skips : Skips timestamp decoder
    · exact (skipped_run setup header _ (packetsFrom_sent _ _ valid) _ _ skips quiet).made
    · have first := ready skips
      rw [List.forall_mem_cons] at valid
      let packet : SentPacket := ⟨timestamp, before, piece, after⟩
      have own : packet.piece.Valid .h264 := valid.1
      have handled := handle_ready setup own skips (header index) first.onTime
      let behind := byteBehind setup (rtpBytes (header index) (sentPacket sequence packet)) decoder
      have outcome := packet_taken behind first valid.1 (continues piece rfl) packet.marker
      dsimp only at handled
      change PacketTaken timestamp piece packet.marker gathered start
        (appendPacket setup behind (sentPacket sequence packet)
          (checkSequence sequence (received decoder)).assembly) at outcome
      generalize result_ : appendPacket setup behind (sentPacket sequence packet)
        (checkSequence sequence (received decoder)).assembly = result at handled outcome
      have step : cedarStep setup ⟨decoder, true⟩ (rtpBytes (header index)
          (sentPacket sequence packet)) =
          ⟨{ checkSequence sequence (received decoder) with assembly := result.2 }, result.1⟩ :=
        (if_pos rfl).trans (by rw [handled])
      have others :
          datagrams header sequence index (packetsFrom timestamp before (piece :: after)) =
          rtpBytes (header index) (sentPacket sequence packet) :: datagrams header (sequence + 1)
            (index + 1) (packetsFrom timestamp (before ++ piece.completes) after) := rfl
      rw [List.foldl_cons, others, List.foldl_cons, step]
      cases outcome with
      | dropped heard dropping =>
        cases stopped : result.1 with
        | false =>
          rw [foldl_receive_ended]
          exact heard.made
        | true =>
          obtain ⟨drops, stamped⟩ := dropping stopped
          exact (skipped_run setup header _ (packetsFrom_sent _ _ valid.2) _ _
            ⟨drops, stamped.symm⟩ heard).made
      | last marked made =>
        have ended : after = [] := List.isEmpty_iff.1 marked
        subst ended
        exact made
      | taken unmarked going building leaves =>
        rw [going]
        obtain ⟨next, same⟩ := ready_next setup
          { checkSequence sequence (received decoder) with assembly := result.2 } building rfl
        refine ih (List.IsChain.tail adjacent) valid.2 _ _ _ building.quiet (fun _ => next)
          fun following head goes_on => ?_
        obtain ⟨other, rest, rfl⟩ := List.exists_cons_of_ne_nil (List.ne_nil_of_mem
          (List.mem_of_mem_head? head))
        cases head
        have continued := (List.isChain_cons_cons.1 adjacent).1.resolve_left goes_on
        have opened : Open timestamp result.2 := leaves fun ended => by
          cases continued
          cases ended
        exact (congrArg (Open timestamp) same).mpr opened

/-! ### The first packet -/

/-- What waits bears a timestamp. -/
def Stamped (assembly : Assembly) : Prop :=
  assembly.accessUnit ≠ [] → assembly.haveTimestamp = true

/-- The timestamp stays known, or the access unit is discarded at once. -/
def Stays (assembly : Assembly) (result : Bool × Assembly) : Prop :=
  result.2.haveTimestamp = assembly.haveTimestamp ∨ result.1 = false ∧ result.2.accessUnit = []

theorem stays_andThen {first : Bool × Assembly} {second : Assembly → Bool × Assembly}
    (stays : Stays assembly first) (further : ∀ between, Stays between (second between)) :
    Stays assembly (andThen first second) := by
  unfold andThen
  obtain same | ⟨stopped, empty⟩ := stays
  · split
    · exact (further first.2).imp_left fun kept => kept.trans same
    · exact .inl same
  · rw [if_neg (by rw [stopped]; exact Bool.false_ne_true)]
    exact .inr ⟨stopped, empty⟩

theorem stays_admitNal (kind : UInt8) (nal : List UInt8) (timestamp : UInt32)
    (assembly : Assembly) : Stays assembly (admitNal kind nal timestamp assembly) := by
  unfold admitNal
  split
  · exact .inl rfl
  · split
    · exact .inr ⟨rfl, rfl⟩
    · split
      · exact .inr ⟨rfl, rfl⟩
      · dsimp only
        split <;> exact .inl rfl

theorem stays_appendWholeNal (kind : UInt8) (nal : List UInt8) (timestamp : UInt32)
    (assembly : Assembly) : Stays assembly (appendWholeNal kind nal timestamp assembly) := by
  have cached : (cacheParameterSet nal assembly).haveTimestamp = assembly.haveTimestamp := by
    unfold cacheParameterSet
    (repeat' split) <;> rfl
  refine stays_andThen ?_ fun between => .inl rfl
  exact (stays_admitNal kind nal timestamp _).imp_left fun same => same.trans cached

theorem stays_appendForm (behind : UInt8) (payload : List UInt8) (timestamp : UInt32)
    (assembly : Assembly) : Stays assembly (appendForm behind payload timestamp assembly) := by
  have aggregate : ∀ units assembly, Stays assembly (appendStapNals timestamp units assembly) := by
    intro units
    induction units with
    | nil => exact fun _ => .inl rfl
    | cons unit rest ih =>
      exact fun assembly => stays_andThen (stays_appendWholeNal _ _ timestamp assembly) ih
  have fragment : ∀ start finish reconstructed data,
      Stays assembly (appendFragment start finish reconstructed data timestamp assembly) := by
    intro start finish reconstructed data
    unfold appendFragment
    split
    · exact stays_andThen (stays_admitNal _ _ timestamp assembly) fun between => .inl rfl
    · split <;> exact .inl rfl
  unfold appendForm
  split
  · exact .inl rfl
  · dsimp only
    split
    · exact stays_appendWholeNal _ _ timestamp { assembly with fuStarted := false }
    · split
      · exact aggregate _ { assembly with fuStarted := false }
      · split
        · split
          · exact .inl rfl
          · exact fragment ..
        · exact .inl rfl

theorem stamped_submitAccessUnit (setup : Setup) (stamped : Stamped assembly) :
    Stamped (submitAccessUnit setup assembly).2 := by
  unfold submitAccessUnit
  split
  · exact stamped
  · dsimp only
    split
    · exact fun filled => absurd rfl filled
    · exact fun filled => absurd rfl filled
    · split
      · exact fun filled => absurd rfl filled
      · exact stamped

theorem stamped_turnTo (setup : Setup) (timestamp : UInt32) (stamped : Stamped assembly) :
    Stamped (turnTo setup timestamp assembly).2 := by
  obtain ⟨-, same⟩ | ⟨-, -, same⟩ | ⟨-, -, same⟩ := turnTo_cases setup timestamp assembly
  · rw [same]
    exact stamped
  · rw [same]
    exact fun filled => absurd rfl filled
  · rw [same]
    exact stamped_submitAccessUnit setup stamped

theorem stamped_appendPacket (setup : Setup) (behind : UInt8) (packet : RtpPacket)
    (stamped : Stamped assembly) : Stamped (appendPacket setup behind packet assembly).2 := by
  unfold appendPacket andThen
  split
  · have formed : Stamped (appendForm behind packet.payload packet.timestamp
        (accept packet (turnTo setup packet.timestamp assembly).2)).2 := by
      obtain same | ⟨-, empty⟩ := stays_appendForm behind packet.payload packet.timestamp
        (accept packet (turnTo setup packet.timestamp assembly).2)
      · exact fun _ => same
      · exact fun filled => absurd empty filled
    dsimp only
    split
    · unfold submitIfMarked
      split
      · exact stamped_submitAccessUnit setup formed
      · exact formed
    · exact formed
  · exact stamped_turnTo setup packet.timestamp stamped

theorem stamped_handleRtpPacket (setup : Setup) (decoder : Decoder) (datagram : List UInt8)
    (stamped : Stamped decoder.assembly) :
    Stamped (handleRtpPacket setup datagram decoder).2.assembly := by
  unfold handleRtpPacket
  split
  · exact stamped
  · unfold appendH264Payload
    split
    · exact stamped
    · split
      · exact stamped
      · dsimp only
        split
        · exact stamped
        · apply stamped_appendPacket
          unfold checkSequence
          split
          · exact fun filled => absurd rfl filled
          · exact stamped

/-- The first packet of the access unit is no late one, and what waits for a marker is of
another picture. -/
structure Arrives (unit : SentUnit .h264) (sequence : UInt16) (decoder : Decoder) : Prop where
  onTime : ¬ sequenceDelta decoder sequence < 0
  other : decoder.assembly.accessUnit ≠ [] → decoder.assembly.currentTimestamp ≠ unit.timestamp

theorem submitted_leaves (setup : Setup) (assembly : Assembly) :
    (submitAccessUnit setup assembly).2.sps = assembly.sps ∧
      (submitAccessUnit setup assembly).2.pps = assembly.pps ∧
      ((submitAccessUnit setup assembly).1 = true →
        (submitAccessUnit setup assembly).2.accessUnit = []) := by
  unfold submitAccessUnit
  split
  · rename_i empty
    exact ⟨rfl, rfl, fun _ => empty⟩
  · dsimp only
    split
    · exact ⟨rfl, rfl, fun _ => rfl⟩
    · exact ⟨rfl, rfl, fun _ => rfl⟩
    · split
      · exact ⟨rfl, rfl, fun _ => rfl⟩
      · exact ⟨rfl, rfl, fun stopped => nomatch stopped⟩

/-- The parameter sets that a decoder has. -/
def setsOf (sound : Sound next assembly) : ParameterSets where
  sps := assembly.sps
  pps := assembly.pps
  sps_kind := sound.sps
  pps_kind := sound.pps

/-- The first packet finds an empty access unit. -/
theorem ready_first (setup : Setup) {unit : SentUnit .h264} {sequence : UInt16} {decoder : Decoder}
    (arrives : Arrives unit sequence decoder) (stamped : Stamped decoder.assembly)
    (sound : Sound next decoder.assembly) :
    Ready setup unit.timestamp sequence ⟨[[0x09, 0x10]], setsOf sound⟩ decoder.assembly.log
      (received decoder) := by
  have same : Quiet unit.timestamp decoder.assembly.log decoder.assembly.log :=
    ⟨[], rfl, fun _ inside => nomatch inside⟩
  have empty : ∀ assembly : Assembly, assembly.accessUnit = [] →
      assembly.sps = decoder.assembly.sps → assembly.pps = decoder.assembly.pps →
      Holds ⟨[[0x09, 0x10]], setsOf sound⟩ assembly := by
    intro assembly none_ sps pps
    refine ⟨?_, sps, pps⟩
    rw [none_]
    rfl
  have checked : (checkSequence sequence (received decoder)).assembly =
        { resetAccessUnit (received decoder).assembly with requireIdr := true } ∨
      (checkSequence sequence (received decoder)).assembly = (received decoder).assembly := by
    unfold checkSequence
    split
    · exact .inl rfl
    · exact .inr rfl
  obtain gap | kept := checked
  · have stays : turnTo setup unit.timestamp
        { resetAccessUnit (received decoder).assembly with requireIdr := true } = (true, _) :=
      if_neg fun turns => turns.2.2 rfl
    refine ⟨rfl, arrives.onTime, ?_, fun _ => ?_⟩
    · rw [gap, stays]
      exact same.cons nofun
    · rw [gap, stays]
      exact empty _ rfl rfl rfl
  · obtain ⟨unturned, stays⟩ | ⟨turns, -, resets⟩ | ⟨turns, -, submits⟩ :=
      turnTo_cases setup unit.timestamp (received decoder).assembly
    · refine ⟨rfl, arrives.onTime, ?_, fun _ => ?_⟩
      · rw [kept, stays]
        exact same
      · rw [kept, stays]
        refine empty _ ?_ rfl rfl
        by_contra filled
        exact unturned ⟨stamped filled, (arrives.other filled).symm, filled⟩
    · refine ⟨rfl, arrives.onTime, ?_, fun _ => ?_⟩
      · rw [kept, resets]
        exact same.cons nofun
      · rw [kept, resets]
        exact empty _ rfl rfl rfl
    · obtain ⟨sps, pps, leaves⟩ := submitted_leaves setup (received decoder).assembly
      refine ⟨rfl, arrives.onTime, ?_, fun going => ?_⟩
      · rw [kept, submits]
        exact quiet_submitAccessUnit setup same turns.2.1.symm
      · rw [kept, submits] at going ⊢
        exact empty _ (leaves going) sps pps

/-! ### The access unit that is submitted -/

/-- The decoder has a parameter set, or the access unit brings one as a whole. -/
def KeepsSets (unit : SentUnit .h264) (decoder : Decoder) : Prop :=
  decoder.assembly.sps ≠ [] ∨ decoder.assembly.pps ≠ [] ∨
    ∃ nal ∈ carriedNals unit, nal.1 = true ∧ isParameterSet nal.2 = true

instance (unit : SentUnit .h264) (decoder : Decoder) : Decidable (KeepsSets unit decoder) := by
  unfold KeepsSets
  infer_instance

theorem keepsSets_iff (unit : SentUnit .h264) {decoder : Decoder}
    (sound : Sound next decoder.assembly) : ¬ KeepsSets unit decoder ↔
      (setsOf sound).nals = [] ∧
        ∀ nal ∈ carriedNals unit, nal.1 = true → isParameterSet nal.2 = false := by
  have sets : (setsOf sound).nals = [] ↔ decoder.assembly.sps = [] ∧ decoder.assembly.pps = [] := by
    unfold ParameterSets.nals
    simp [setsOf, List.filter_eq_nil_iff]
  rw [sets]
  unfold KeepsSets
  simp only [not_or, not_exists, not_and, ne_eq, not_not, Bool.not_eq_true, and_assoc]

/-- A decoder that still runs is sound, and what waits in it is stamped. -/
theorem sound_after_feed (setup : Setup) (datagrams : List (List UInt8)) :
    Stamped (datagrams.foldl (cedarStep setup) cedarStart).decoder.assembly ∧
      ((datagrams.foldl (cedarStep setup) cedarStart).running = true →
        DecoderSound (datagrams.foldl (cedarStep setup) cedarStart).decoder) := by
  let invariant : Decoder → Prop := fun decoder => Stamped decoder.assembly
  have start : invariant {} := fun filled => absurd rfl filled
  have stamped : invariant (datagrams.foldl (cedarStep setup) cedarStart).decoder :=
    invariant_after_any_feed (fun decoder datagram =>
      stamped_handleRtpPacket setup decoder datagram) start datagrams
  refine ⟨stamped, ?_⟩
  have kept : ∀ decoder datagram, DecoderSound decoder → True →
      True ∧ ((handleRtpPacket setup datagram decoder).1 = true →
        DecoderSound (handleRtpPacket setup datagram decoder).2) :=
    fun decoder datagram sound _ => ⟨trivial, (handleRtpPacket_keeps setup datagram sound).2.1⟩
  exact (invariants_after_feed (fun _ _ => trivial) kept decoderSound_initial datagrams
    (meets_of_always (fun _ _ _ => trivial) datagrams _)).2

/-- An access unit of which every packet arrives in order, whatever came before it. What is
submitted of it has the parameter sets in front of its slices, and nothing between these
that was not sent there, exactly when that is how it was sent and no IDR slice but the
first slice finds parameter sets that the decoder keeps. -/
theorem submitted_unit_placed_iff (setup : Setup) (earlier : List (List UInt8))
    (unit : SentUnit .h264) (header : Nat → HeaderOptions) (sequence : UInt16)
    (arrives : Arrives unit sequence (earlier.foldl (cedarStep setup) cedarStart).decoder)
    (added : List Event) (submitted : List CedarRtpDecoder.Part)
    (grown : ((datagrams header sequence 0 unit.packets).foldl (cedarStep setup)
        (earlier.foldl (cedarStep setup) cedarStart)).decoder.assembly.log =
      added ++ (earlier.foldl (cedarStep setup) cedarStart).decoder.assembly.log)
    (inside : .submitted submitted unit.timestamp ∈ added) :
    Placed unit.nals (nalUnits submitted) ↔
      ParameterSetsFirst unit.nals ∧ (HasLaterIdrSlice unit.nals →
        ¬ KeepsSets unit (earlier.foldl (cedarStep setup) cedarStart).decoder) := by
  obtain ⟨stamped, running⟩ := sound_after_feed setup earlier
  generalize earlier.foldl (cedarStep setup) cedarStart = before at *
  obtain ⟨decoder, going⟩ := before
  cases going with
  | false =>
    rw [foldl_receive_ended] at grown
    have nothing : added = [] := List.append_left_eq_self.1 grown.symm
    rw [nothing] at inside
    cases inside
  | true =>
    have sound := (running rfl).sound
    obtain ⟨adjacent, starts⟩ := unit.pieces_adjacent_and_start
    have quiet : Quiet unit.timestamp decoder.assembly.log decoder.assembly.log :=
      ⟨[], rfl, fun _ none_ => nomatch none_⟩
    obtain ⟨new, same, made⟩ := pieces_made setup header adjacent unit.pieces_valid [] sequence 0
      quiet (fun _ => ready_first setup arrives stamped sound)
      fun piece first goes_on => absurd (starts piece first) goes_on
    have all : added = new := List.append_cancel_right (grown.symm.trans same)
    subst all
    have nals := made submitted inside
    have carries := placed_iff (setsOf sound) (carriedNals unit)
    rw [carriedNals_nals] at carries
    rw [nals, pieces_taken, carries, keepsSets_iff unit sound]

/-! ### Two access units -/

/-- A picture of one IDR slice behind its parameter sets. -/
def idrUnit : SentUnit .h264 where
  timestamp := 1000
  parts := [.aggregate 24 0 [[0x67, 0x42], [0x68, 0xce]], .single [0x65, 0x88, 0x84]]
  filled := List.cons_ne_nil _ _
  valid := by
    have sets : ∀ nal ∈ [[0x67, 0x42], [0x68, 0xce]], ValidNal .h264 nal ∧ nal.length ≤ 65535 := by
      decide
    have slice : ValidNal .h264 [0x65, 0x88, 0x84] := by decide
    exact List.forall_mem_cons.2 ⟨⟨rfl, List.cons_ne_nil _ _, sets⟩,
      List.forall_mem_singleton.2 slice⟩

/-- The next picture, of two slices. -/
def twoSlices (kind : UInt8) (valid : ValidNal .h264 [kind, 0x88, 0x84])
    (other : ValidNal .h264 [kind, 0x5a, 0x84]) : SentUnit .h264 where
  timestamp := 2500
  parts := [.single [kind, 0x88, 0x84], .single [kind, 0x5a, 0x84]]
  filled := List.cons_ne_nil _ _
  valid := List.forall_mem_cons.2 ⟨valid, List.forall_mem_singleton.2 other⟩

def idrDatagrams : List (List UInt8) := datagrams (fun _ => .plain) 65534 0 idrUnit.packets

theorem two_slices_placed :
    Placed (twoSlices 0x41 (by decide) (by decide)).nals
      (nalUnits [.delimiter, .nal 3 [0x41, 0x88, 0x84], .nal 4 [0x41, 0x5a, 0x84]]) :=
  (submitted_unit_placed_iff grantingSetup idrDatagrams (twoSlices 0x41 (by decide) (by decide))
    (fun _ => .plain) 0 ⟨by decide +kernel, by decide +kernel⟩
    [.submitted [.delimiter, .nal 3 [0x41, 0x88, 0x84], .nal 4 [0x41, 0x5a, 0x84]] 2500,
      .accepted 4 1, .accepted 3 0] _ (by decide +kernel) (by decide +kernel)).2
    ⟨by decide +kernel, fun later => absurd later (by decide +kernel)⟩

/-- Between the slices of an IDR picture stand the parameter sets that came before. -/
theorem idr_slices_parted : ¬ ∀ (setup : Setup) (earlier : List (List UInt8))
    (unit : SentUnit .h264) (header : Nat → HeaderOptions) (sequence : UInt16),
    ParameterSetsFirst unit.nals →
    Arrives unit sequence (earlier.foldl (cedarStep setup) cedarStart).decoder →
    ∀ submitted, .submitted submitted unit.timestamp ∈
        ((datagrams header sequence 0 unit.packets).foldl (cedarStep setup)
          (earlier.foldl (cedarStep setup) cedarStart)).decoder.assembly.log →
      Placed unit.nals (nalUnits submitted) := by
  intro claimed
  have placed := claimed grantingSetup idrDatagrams (twoSlices 0x65 (by decide) (by decide))
    (fun _ => .plain) 0 (by decide +kernel) ⟨by decide +kernel, by decide +kernel⟩
    [.delimiter, .parameterSet [0x67, 0x42], .parameterSet [0x68, 0xce],
      .nal 3 [0x65, 0x88, 0x84], .parameterSet [0x67, 0x42], .parameterSet [0x68, 0xce],
      .nal 4 [0x65, 0x5a, 0x84]] (by decide +kernel)
  have first := placed.first
  revert first
  decide +kernel

end Glide.CedarParameterSets
