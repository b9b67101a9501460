import Mathlib.Data.Rat.Floor
import LiskMigrator.Tables
import LiskMigrator.Library.Keyed

namespace LiskMigrator
open Text Sorting Collections Keyed Outcome

theorem ceiling_exact (a : Int) : ceiling a roundLength = .ok ⌈(a : ℚ)/103⌉ := by
  have quotient := Rat.ceil_intCast_div_natCast a 103
  have length : roundLength = 103 := rfl
  have floored : (a+103-1).fdiv 103 = -((-a)/103) := by
    rw [Int.fdiv_eq_ediv_of_nonneg _ (by decide)]
    omega
  unfold ceiling
  rw [length,if_neg (by decide),floored]
  simpa using quotient.symm

example : ceiling 300 roundLength = .ok 3 := by decide

-- An address is banned when an account under these very bytes is marked so.
def Banned (accounts : List Account) (address : Bytes) : Prop :=
  ∃ account ∈ accounts, account.address.bytes = address ∧ account.dpos.delegate.isBanned = true

instance : DecidablePred (Banned accounts) := fun _ => inferInstanceAs (Decidable (∃ account ∈ accounts, _))

def listed (delegates : List DelegateWeight) : List Bytes := delegates.map (fun delegate => delegate.address.bytes)

def topDelegates (accounts : List Account) (delegates : List DelegateWeight) : List Bytes :=
  ((listed delegates).filter (fun address => ¬ Banned accounts address)).take 101

def TopNonBanned (packages : Packages) (accounts : List Account) (delegates : List DelegateWeight)
    (data : GenesisDataEntry) : Prop :=
  ∃ order, Ascending compare order ∧ order.Perm (topDelegates accounts delegates) ∧
    data.initValidators = order.map packages.getLisk32AddressFromAddress

section Lookup
variable {accounts : List Account} {delegates : List DelegateWeight}

theorem banned_untouched {ref : Nat} (apart : ∀ account ∈ accounts, account.address.ref ≠ ref) :
    (accountBannedMap accounts).get ref = none :=
  assign_untouched [] accounts apart

-- No lookup by object identity succeeds, and every delegate passes the filter.
theorem initValidators_unfiltered
    (apart : ∀ account ∈ accounts, ∀ delegate ∈ delegates, account.address.ref ≠ delegate.address.ref) :
    initValidators accounts delegates = delegates.map DelegateWeight.address := by
  induction delegates using List.reverseRecOn with
  | nil => rfl
  | append_singleton delegates delegate ih =>
    have earlier := ih (fun account member other inList => apart account member other (List.mem_append_left _ inList))
    have last := banned_untouched (fun account member =>
      apart account member delegate (List.mem_append_right delegates List.mem_cons_self))
    unfold initValidators at earlier ⊢
    rw [List.foldl_append,earlier,List.foldl_cons,List.foldl_nil,List.map_append,List.map_singleton,last]
    rfl

theorem sortedInitValidators_bytes
    (apart : ∀ account ∈ accounts, ∀ delegate ∈ delegates, account.address.ref ≠ delegate.address.ref) :
    (sortedInitValidators accounts delegates).map Buffer.bytes = sortBy compare ((listed delegates).take 101) := by
  have moved (items : List Buffer) : (sortBy (compareOn Buffer.bytes) items).map Buffer.bytes =
      sortBy compare (items.map Buffer.bytes) := sortBy_map Buffer.bytes (fun _ _ => rfl) items
  unfold sortedInitValidators listed
  rw [initValidators_unfiltered apart,moved,← List.map_take,← List.map_take,List.map_map]
  rfl

end Lookup

theorem genesisData_parts (created : createGenesisDataObj packages accounts weights snapshotHeight = .ok data) :
    ∃ voteWeight, weights.voteWeights.find? (fun voteWeight => voteWeight.round = ⌈(snapshotHeight : ℚ)/103⌉-2) = some voteWeight ∧
      data.initValidators = ((sortedInitValidators accounts voteWeight.delegates).map Buffer.bytes).map
        packages.getLisk32AddressFromAddress := by
  unfold createGenesisDataObj at created
  rw [ceiling_exact] at created
  simp only [bind,Except.bind] at created
  cases found : weights.voteWeights.find? (fun voteWeight => voteWeight.round = ⌈(snapshotHeight : ℚ)/103⌉-2) with
  | none => simp only [found] at created; cases created
  | some voteWeight =>
    simp only [found] at created
    split at created
    · cases created
    · cases created
      refine ⟨voteWeight,rfl,?_⟩
      rw [List.map_map]
      rfl

theorem initValidators_top_iff (injective : Set.InjOn packages.getLisk32AddressFromAddress
      {address | ∃ voteWeight ∈ weights.voteWeights, address ∈ listed voteWeight.delegates})
    (once : ∀ voteWeight ∈ weights.voteWeights, (listed voteWeight.delegates).Nodup)
    (apart : ∀ account ∈ accounts, ∀ voteWeight ∈ weights.voteWeights, ∀ delegate ∈ voteWeight.delegates,
      account.address.ref ≠ delegate.address.ref)
    (created : createGenesisDataObj packages accounts weights snapshotHeight = .ok data) :
    ∃ voteWeight,
      weights.voteWeights.find? (fun voteWeight => voteWeight.round = ⌈(snapshotHeight : ℚ)/103⌉-2) = some voteWeight ∧
      (TopNonBanned packages accounts voteWeight.delegates data ↔
        ∀ address ∈ (listed voteWeight.delegates).take 101, ¬ Banned accounts address) := by
  obtain ⟨voteWeight,found,written⟩ := genesisData_parts created
  have inTable := List.mem_of_find?_eq_some found
  have unfiltered := sortedInitValidators_bytes (fun account member delegate inRound =>
    apart account member voteWeight inTable delegate inRound)
  have sorted := sortBy_perm compare ((listed voteWeight.delegates).take 101)
  rw [unfiltered] at written
  refine ⟨voteWeight,found,?_⟩
  rw [← take_filter]
  constructor
  · rintro ⟨order,_,same,renamed⟩
    have exact : order = sortBy compare ((listed voteWeight.delegates).take 101) := by
      apply map_exact (renamed.symm.trans written)
      intro a inOrder b inSorted equal
      have fromTop := List.mem_of_mem_filter (List.mem_of_mem_take (same.mem_iff.mp inOrder))
      have fromList := List.mem_of_mem_take (sorted.mem_iff.mp inSorted)
      exact injective ⟨voteWeight,inTable,fromTop⟩ ⟨voteWeight,inTable,fromList⟩ equal
    exact same.symm.trans (exact ▸ sorted)
  · intro same
    refine ⟨_,?_,sorted.trans same.symm,written⟩
    apply sortBy_ascending
    apply ((once voteWeight inTable).sublist (List.take_sublist _ _)).imp
    intro a b different equal
    exact different (Std.LawfulEqOrd.eq_of_compare equal)

-- The records that a call compares are decoded apart from each other.
theorem read_apart (read : readSnapshot packages db = .ok snapshot) (wrapper : VoteWeightsWrapper) :
    ∀ account ∈ snapshot.migrated.map sortKeys,
      ∀ voteWeight ∈ (placeVoteWeights snapshot.accounts.length wrapper).voteWeights, ∀ delegate ∈ voteWeight.delegates,
        account.address.ref ≠ delegate.address.ref := by
  obtain ⟨_,_,scanned,_⟩ := readSnapshot_parts read
  obtain ⟨stream,_,scanned⟩ := bind_ok.mp scanned
  obtain ⟨records,_,placed⟩ := bind_ok.mp scanned
  have accounts : snapshot.accounts = placeAccounts records := (Except.ok.inj placed).symm
  have count : snapshot.accounts.length = records.length := by rw [accounts,placeAccounts,List.length_mapIdx]
  intro account member voteWeight inTable delegate inRound same
  obtain ⟨original,migrated,rfl⟩ := List.mem_map.mp member
  have below := placed_ref records original (accounts ▸ (List.mem_filter.mp migrated).1)
  have above := placed_delegate_ref snapshot.accounts.length wrapper voteWeight inTable delegate inRound
  have kept : (sortKeys original).address.ref = original.address.ref := rfl
  omega

namespace Sample

def sortedAccounts : List Account := snapshot.migrated.map sortKeys

def placedWeights : VoteWeightsWrapper := placeVoteWeights 3 voteWeights

theorem created : createGenesisDataObj packages sortedAccounts placedWeights 300 = .ok
    ⟨posInitRounds,[delegateAddress,voterAddress].map packages.getLisk32AddressFromAddress⟩ := by decide +kernel

end Sample

theorem initValidators_top_sample : ∃ voteWeight,
    Sample.placedWeights.voteWeights.find? (fun voteWeight => voteWeight.round = ⌈((300 : Int) : ℚ)/103⌉-2) = some voteWeight ∧
    (TopNonBanned Sample.packages Sample.sortedAccounts voteWeight.delegates
        ⟨posInitRounds,[Sample.delegateAddress,Sample.voterAddress].map Sample.packages.getLisk32AddressFromAddress⟩ ↔
      ∀ address ∈ (listed voteWeight.delegates).take 101, ¬ Banned Sample.sortedAccounts address) :=
  initValidators_top_iff Sample.lisk32_injective.injOn (by decide +kernel) (read_apart Sample.read _) Sample.created

theorem banned_delegate_kept : Banned Sample.sortedAccounts Sample.delegateAddress ∧
    createGenesisDataObj Sample.packages Sample.sortedAccounts Sample.placedWeights 300 = .ok
      ⟨posInitRounds,[Sample.delegateAddress,Sample.voterAddress].map Sample.packages.getLisk32AddressFromAddress⟩ ∧
    ∃ voteWeight, Sample.placedWeights.voteWeights.find? (fun voteWeight => voteWeight.round = (3 : Int)-2) = some voteWeight ∧
      listed voteWeight.delegates = [Sample.voterAddress,Sample.delegateAddress] ∧
      ¬ TopNonBanned Sample.packages Sample.sortedAccounts voteWeight.delegates
        ⟨posInitRounds,[Sample.delegateAddress,Sample.voterAddress].map Sample.packages.getLisk32AddressFromAddress⟩ := by
  refine ⟨by decide +kernel,Sample.created,_,rfl,by decide +kernel,?_⟩
  rintro ⟨order,_,same,written⟩
  have top : topDelegates Sample.sortedAccounts [⟨⟨3,Sample.voterAddress⟩,6⟩,⟨⟨4,Sample.delegateAddress⟩,5⟩] =
      [Sample.voterAddress] := by decide +kernel
  have one : order.length = 1 := same.length_eq.trans (congrArg List.length top)
  have two := congrArg List.length written
  simp [one] at two

end LiskMigrator
