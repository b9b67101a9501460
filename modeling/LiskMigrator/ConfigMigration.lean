import LiskMigrator.Utils.Config

namespace LiskMigrator
open Json

-- A property of the v3 configuration with its place in the v4 one, and the
-- form it takes there.
structure MappedProperty where
  source : List String
  place : List String
  written : Json → Json

def mappedProperties : List MappedProperty :=
  [⟨["rootPath"],["system","dataPath"],id⟩] ++
  transactionPoolProperties.map (fun name => ⟨["transactionPool",name],["transactionPool",name],id⟩) ++
  [⟨["rpc","mode"],["rpc","modes"],fun mode => .array [mode]⟩] ++
  networkProperties.map (fun name => ⟨["network",name.1],["network",name.2],id⟩)

def exemptPlaces : List (List String) :=
  [["system","version"],["system","logLevel"],["genesis","minimumCertifyHeight"],["modules","pos","maxBFTWeightCap"]]

structure Faithful (configV3 base migrated : Json) : Prop where
  mapped : ∀ property ∈ mappedProperties, migrated.find property.place =
    match configV3.find property.source with
    | none => base.find property.place
    | some value => some (property.written value)
  frame : ∀ path, (∀ place ∈ mappedProperties.map MappedProperty.place ++ exemptPlaces, Apart path place) →
    migrated.find path = base.find path

-- The assignments of migrateUserConfig up to the weight cap, left out where the
-- value is falsy.
def mappedAssignment (configV3 : Json) (property : MappedProperty) : List String × Option Json :=
  (property.place,((configV3.find property.source).filter Json.truthy).map property.written)

def assignments (configV3 base : Json) (snapshotHeight : Int) : List (List String × Option Json) :=
  [(["system","version"],if isTruthy (base.find ["system","version"]) then none else some (.string defaultVersion)),
    mappedAssignment configV3 ⟨["rootPath"],["system","dataPath"],id⟩,
    (["system","logLevel"],((configV3.get "logger").filter Json.truthy).map (fun logger => .string (getLogLevel logger)))] ++
  transactionPoolProperties.map (fun name =>
    mappedAssignment configV3 ⟨["transactionPool",name],["transactionPool",name],id⟩) ++
  [mappedAssignment configV3 ⟨["rpc","mode"],["rpc","modes"],fun mode => .array [mode]⟩] ++
  networkProperties.map (fun name => mappedAssignment configV3 ⟨["network",name.1],["network",name.2],id⟩) ++
  [(["genesis","minimumCertifyHeight"],some (.number (minimumCertifyHeight snapshotHeight)))]

section Sequence
variable {configV3 config : Json}

theorem applyAll_append (config : Json) (one two : List (List String × Option Json)) :
    applyAll config (one ++ two) = applyAll (applyAll config one) two := by
  simp [applyAll]

theorem assignTruthy_apply (place : List String) (value : Option Json) (config : Json) :
    assignTruthy place value config = applyAll config [(place,value.filter Json.truthy)] := by
  cases value with
  | none => rfl
  | some value =>
    unfold assignTruthy whenTruthy applyAll
    cases truth : value.truthy <;> simp [Option.filter,truth]

theorem falsy_get {value : Json} (falsy : value.truthy = false) (name : String) : value.get name = none := by
  cases value with
  | object fields => cases falsy
  | _ => rfl

-- A section of the v3 configuration, property by property. One that is missing
-- or falsy has no properties, so the guard around it changes nothing.
theorem section_apply (configV3 config : Json) (name : String) (properties : List (String × List String)) :
    whenTruthy (configV3.get name) config (fun found =>
      properties.foldl (fun config property => assignTruthy property.2 (found.get property.1) config) config) =
    applyAll config (properties.map (fun property => (property.2,(configV3.find [name,property.1]).filter Json.truthy))) := by
  cases found : configV3.get name with
  | none =>
    have missing (property : String) : configV3.find [name,property] = none := by simp [find,found]
    induction properties with
    | nil => rfl
    | cons property rest ih => simpa [applyAll,missing,whenTruthy] using ih
  | some value =>
    have inside (property : String) : configV3.find [name,property] = value.get property := by
      simp [find,found,Option.bind_some,Option.bind_fun_some]
    unfold whenTruthy
    cases truth : value.truthy with
    | true =>
      simp only [truth,if_true]
      induction properties generalizing config with
      | nil => rfl
      | cons property rest ih =>
        rw [List.foldl_cons,ih,assignTruthy_apply,List.map_cons,inside]
        rfl
    | false =>
      have missing (property : String) : configV3.find [name,property] = none := (inside property).trans (falsy_get truth property)
      simp only [truth,Bool.false_eq_true,if_false]
      induction properties with
      | nil => rfl
      | cons property rest ih => simpa [applyAll,missing] using ih

theorem whenTruthy_apply (place : List String) (value : Option Json) (written : Json → Json) (config : Json) :
    whenTruthy value config (fun value => config.put place (written value)) =
      applyAll config [(place,(value.filter Json.truthy).map written)] := by
  cases value with
  | none => rfl
  | some value =>
    unfold whenTruthy applyAll
    cases truth : value.truthy <;> simp [Option.filter,truth]

end Sequence

section Migration
variable {configV3 : Json} {base : ApplicationConfig} {snapshotHeight : Int}

def migratedProperties (configV3 : Json) (base : ApplicationConfig) (snapshotHeight : Int) : Json :=
  applyAll base.value (assignments configV3 base.value snapshotHeight)

theorem version_apply (config : Json) :
    (if isTruthy (config.find ["system","version"]) then config
      else config.put ["system","version"] (.string defaultVersion)) =
    applyAll config [(["system","version"],
      if isTruthy (config.find ["system","version"]) then none else some (.string defaultVersion))] := by
  unfold applyAll
  cases isTruthy (config.find ["system","version"]) <;> simp

theorem transactionPool_apply (configV3 config : Json) : migrateTransactionPool configV3 config =
    applyAll config (transactionPoolProperties.map (fun name =>
      mappedAssignment configV3 ⟨["transactionPool",name],["transactionPool",name],id⟩)) := by
  have applied := section_apply configV3 config "transactionPool"
    (transactionPoolProperties.map (fun name => (name,["transactionPool",name])))
  simpa [migrateTransactionPool,mappedAssignment,List.foldl_map,List.map_map,Function.comp_def] using applied

theorem network_apply (configV3 config : Json) : migrateNetwork configV3 config =
    applyAll config (networkProperties.map (fun name =>
      mappedAssignment configV3 ⟨["network",name.1],["network",name.2],id⟩)) := by
  have applied := section_apply configV3 config "network"
    (networkProperties.map (fun name => (name.1,["network",name.2])))
  simpa [migrateNetwork,mappedAssignment,List.foldl_map,List.map_map,Function.comp_def] using applied

theorem find_single (config : Json) (name : String) : config.find [name] = config.get name := by
  simp [find,Option.bind_fun_some]

theorem migrate_applies (configV3 : Json) (base : ApplicationConfig) (snapshotHeight : Int) :
    migrateUserConfig configV3 base snapshotHeight =
      let config := migratedProperties configV3 base snapshotHeight
      if isTruthy (config.find ["modules","pos"]) ∧ ¬ isTruthy (config.find ["modules","pos","maxBFTWeightCap"]) then
        config.put ["modules","pos","maxBFTWeightCap"] (.number maxBftWeightCap)
      else config := by
  have dataPath (config : Json) : assignTruthy ["system","dataPath"] (configV3.get "rootPath") config =
      applyAll config [mappedAssignment configV3 ⟨["rootPath"],["system","dataPath"],id⟩] := by
    rw [assignTruthy_apply,mappedAssignment,find_single,Option.map_id,id]
  unfold migrateUserConfig migratedProperties assignments
  simp only [version_apply,dataPath,whenTruthy_apply,transactionPool_apply,network_apply,applyAll_append]
  rfl

theorem places_listed (configV3 base : Json) (snapshotHeight : Int) : (assignments configV3 base snapshotHeight).map Prod.fst =
    [["system","version"],["system","dataPath"],["system","logLevel"]] ++
    transactionPoolProperties.map (fun name => ["transactionPool",name]) ++ [["rpc","modes"]] ++
    networkProperties.map (fun name => ["network",name.2]) ++ [["genesis","minimumCertifyHeight"]] := rfl

theorem places_apart : ((assignments configV3 base.value snapshotHeight).map Prod.fst).Pairwise Apart := by
  rw [places_listed]
  decide +kernel

theorem places_held : ∀ place ∈ (assignments configV3 base.value snapshotHeight).map Prod.fst,
    place ≠ [] ∧ Holder base.value place := by
  have shape : ∀ place ∈ (assignments configV3 base.value snapshotHeight).map Prod.fst,
      place.dropLast ∈ ["system","rpc","network","transactionPool","genesis"].map ([·]) := by
    rw [places_listed]
    decide +kernel
  intro place member
  obtain ⟨name,listed,parent⟩ := List.mem_map.mp (shape place member)
  obtain ⟨fields,found⟩ := base.sections name listed
  refine ⟨fun empty => ?_,.object fields,?_,rfl⟩
  · cases empty
    cases parent
  · rw [← parent,find_single,found]

-- The weight cap is set last, apart from everything that was assigned before.
theorem migrate_elsewhere (apart : Apart path ["modules","pos","maxBFTWeightCap"]) :
    (migrateUserConfig configV3 base snapshotHeight).find path = (migratedProperties configV3 base snapshotHeight).find path := by
  rw [migrate_applies]
  dsimp only
  split
  · exact find_put_apart _ apart
  · rfl

theorem property_assigned (property : MappedProperty) (member : property ∈ mappedProperties) :
    mappedAssignment configV3 property ∈ assignments configV3 base.value snapshotHeight := by
  unfold mappedProperties at member
  unfold assignments
  simp only [List.mem_append,List.mem_cons,List.not_mem_nil,or_false,List.mem_map] at member ⊢
  rcases member with ((rfl | ⟨name,listed,rfl⟩) | rfl) | ⟨name,listed,rfl⟩
  · exact .inl (.inl (.inl (.inl (.inr (.inl rfl)))))
  · exact .inl (.inl (.inl (.inr ⟨name,listed,rfl⟩)))
  · exact .inl (.inl (.inr rfl))
  · exact .inl (.inr ⟨name,listed,rfl⟩)

theorem mapped_apart : ∀ property ∈ mappedProperties, Apart property.place ["modules","pos","maxBFTWeightCap"] := by
  decide +kernel

theorem migrated_place (property : MappedProperty) (member : property ∈ mappedProperties) :
    (migrateUserConfig configV3 base snapshotHeight).find property.place =
      (((configV3.find property.source).filter Json.truthy).map property.written).or (base.value.find property.place) := by
  rw [migrate_elsewhere (mapped_apart property member)]
  exact find_applyAll_own places_apart places_held (property_assigned property member)

theorem migrated_frame (apart : ∀ place ∈ mappedProperties.map MappedProperty.place ++ exemptPlaces, Apart path place) :
    (migrateUserConfig configV3 base snapshotHeight).find path = base.value.find path := by
  have listed : ∀ place ∈ (assignments configV3 base.value snapshotHeight).map Prod.fst,
      place ∈ mappedProperties.map MappedProperty.place ++ exemptPlaces := by
    rw [places_listed]
    decide +kernel
  have cap : ["modules","pos","maxBFTWeightCap"] ∈ mappedProperties.map MappedProperty.place ++ exemptPlaces := by decide +kernel
  rw [migrate_elsewhere (apart _ cap)]
  exact find_applyAll_apart _ (fun place member => apart place (listed place member))

end Migration

theorem config_migration_iff (configV3 : Json) (base : ApplicationConfig) (snapshotHeight : Int) :
    Faithful configV3 base.value (migrateUserConfig configV3 base snapshotHeight) ↔
      ∀ property ∈ mappedProperties, ∀ value, configV3.find property.source = some value → value.truthy = false →
        base.value.find property.place = some (property.written value) := by
  constructor
  · intro faithful property member value given falsy
    have kept : (migrateUserConfig configV3 base snapshotHeight).find property.place = _ := migrated_place property member
    have wanted := faithful.mapped property member
    simp only [given,Option.filter,falsy] at kept wanted
    exact kept.symm.trans wanted
  · intro kept
    refine ⟨?_,fun path apart => migrated_frame apart⟩
    intro property member
    rw [migrated_place property member]
    cases given : configV3.find property.source with
    | none => rfl
    | some value =>
      cases truth : value.truthy with
      | true => simp [Option.filter,truth]
      | false => simpa [Option.filter,truth] using kept property member value given truth

namespace Sample

def baseConfig : ApplicationConfig where
  value := .object [("system",.object [("dataPath",.string "~/.lisk")]),("rpc",.object []),("network",.object [("port",.number 7667),("advertiseAddress",.boolean true)]),
    ("transactionPool",.object []),("genesis",.object []),("modules",.object [("pos",.object [])])]
  sections := by
    intro name member
    simp only [List.mem_cons,List.not_mem_nil,or_false] at member
    rcases member with rfl | rfl | rfl | rfl | rfl <;> exact ⟨_,rfl⟩
  pos := by
    intro pos found
    cases found
    exact ⟨[],rfl⟩

def hiddenNode : Json := .object [("network",.object [("advertiseAddress",.boolean false)])]

end Sample

theorem advertise_address_dropped :
    Sample.hiddenNode.find ["network","advertiseAddress"] = some (.boolean false) ∧
    (migrateUserConfig Sample.hiddenNode Sample.baseConfig 300).find ["network","advertiseAddress"] = some (.boolean true) ∧
    ¬ Faithful Sample.hiddenNode Sample.baseConfig.value (migrateUserConfig Sample.hiddenNode Sample.baseConfig 300) := by
  have dropped : (migrateUserConfig Sample.hiddenNode Sample.baseConfig 300).find ["network","advertiseAddress"] = some (.boolean true) := by rfl
  refine ⟨rfl,dropped,?_⟩
  intro faithful
  have wanted := faithful.mapped ⟨["network","advertiseAddress"],["network","advertiseAddress"],id⟩ (by simp [mappedProperties,networkProperties])
  cases dropped.symm.trans wanted

end LiskMigrator
