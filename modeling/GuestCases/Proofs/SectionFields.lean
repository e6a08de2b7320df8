import GuestCases.Proofs.DecodedRecords

/-!
The slots of the four records of the settings. A section and its sources are made of them: what is
decoded for each key, what stands for a missing one, and which have to be there.
-/

namespace GuestCases.Settings

def cpuidSourceSlots : List (Slot CpuidSourceFields CpuidSource) :=
  [⟨"csv_path", String, Decoder.path, none, (·.csvPath), (·.csvPath)⟩,
    ⟨"bias", Nat, Decoder.rowCount, some 0, (·.bias), (·.bias)⟩,
    ⟨"fname", String, Decoder.text, some defaultFieldName, (·.fieldName), (·.fieldName)⟩,
    ⟨"vtype", List String, Decoder.candidates, none, (·.virtType), (·.virtType)⟩,
    ⟨"vdetail", List String, Decoder.candidates, none, (·.virtDetail), (·.virtDetail)⟩,
    ⟨"version", String, Decoder.numberOrText, some defaultVersion, (·.version), (·.version)⟩]

def cpuidSectionSlots : List (Slot CpuidSectionFields CpuidSection) :=
  [⟨"header_path", String, Decoder.path, none, (·.headerPath), (·.headerPath)⟩,
    ⟨"sources", List CpuidSource, Decoder.list cpuidSource.decode, none, (·.sources), (·.sources)⟩]

def msrSourceSlots : List (Slot MsrSourceFields MsrSource) :=
  [⟨"csv_path", String, Decoder.path, none, (·.csvPath), (·.csvPath)⟩,
    ⟨"bias", Nat, Decoder.rowCount, some 0, (·.bias), (·.bias)⟩,
    ⟨"rdname", List String, Decoder.candidates, none, (·.read), (·.read)⟩,
    ⟨"wrname", List String, Decoder.candidates, none, (·.write), (·.write)⟩,
    ⟨"version", String, Decoder.numberOrText, some defaultVersion, (·.version), (·.version)⟩]

def msrSectionSlots : List (Slot MsrSectionFields MsrSection) :=
  [⟨"header_path", String, Decoder.path, none, (·.headerPath), (·.headerPath)⟩,
    ⟨"prepath", Option String, Decoder.optional Decoder.path, some none, (·.conditionPath),
      (·.conditionPath)⟩,
    ⟨"precondition_header", String, Decoder.path, none, (·.hookPath), (·.hookPath)⟩,
    ⟨"sources", List MsrSource, Decoder.list msrSource.decode, none, (·.sources), (·.sources)⟩]

theorem cpuidSource_isMadeOf : cpuidSource.IsMadeOf cpuidSourceSlots where
  distinct := by simp [cpuidSourceSlots]
  exists_slot := by simp [cpuidSource, cpuidSourceSlots]
  empty := by simp [cpuidSource, cpuidSourceSlots]
  set_eq := by
    simp only [cpuidSourceSlots, List.forall_mem_cons, List.not_mem_nil, false_implies,
      implies_true, and_true]
    refine ⟨?_, ?_, ?_, ?_, ?_, ?_⟩ <;> intro value gathered <;> exact ⟨_, rfl, by simp⟩
  finish_eq_ok_iff := by
    rintro absent gathered ⟨csvPath, bias, fieldName, virtType, virtDetail, version⟩
    simp only [cpuidSourceSlots, List.forall_mem_cons, List.not_mem_nil, false_implies,
      implies_true, and_true, Option.or_none, Option.or_some, Option.some.injEq]
    cases hcsvPath : gathered.csvPath <;>
      cases hvirtType : gathered.virtType <;>
      cases hvirtDetail : gathered.virtDetail <;>
      simp [cpuidSource, require, hcsvPath, hvirtType, hvirtDetail, bind, Except.bind, pure,
        Except.pure]

theorem cpuidSection_isMadeOf : cpuidSection.IsMadeOf cpuidSectionSlots where
  distinct := by simp [cpuidSectionSlots]
  exists_slot := by simp [cpuidSection, cpuidSectionSlots]
  empty := by simp [cpuidSection, cpuidSectionSlots]
  set_eq := by
    simp only [cpuidSectionSlots, List.forall_mem_cons, List.not_mem_nil, false_implies,
      implies_true, and_true]
    refine ⟨?_, ?_⟩ <;> intro value gathered <;> exact ⟨_, rfl, by simp⟩
  finish_eq_ok_iff := by
    rintro absent gathered ⟨headerPath, sources⟩
    simp only [cpuidSectionSlots, List.forall_mem_cons, List.not_mem_nil, false_implies,
      implies_true, and_true, Option.or_none]
    cases hheaderPath : gathered.headerPath <;>
      cases hsources : gathered.sources <;>
      simp [cpuidSection, require, hheaderPath, hsources, bind, Except.bind, pure, Except.pure]

theorem msrSource_isMadeOf : msrSource.IsMadeOf msrSourceSlots where
  distinct := by simp [msrSourceSlots]
  exists_slot := by simp [msrSource, msrSourceSlots]
  empty := by simp [msrSource, msrSourceSlots]
  set_eq := by
    simp only [msrSourceSlots, List.forall_mem_cons, List.not_mem_nil, false_implies,
      implies_true, and_true]
    refine ⟨?_, ?_, ?_, ?_, ?_⟩ <;> intro value gathered <;> exact ⟨_, rfl, by simp⟩
  finish_eq_ok_iff := by
    rintro absent gathered ⟨csvPath, bias, read, write, version⟩
    simp only [msrSourceSlots, List.forall_mem_cons, List.not_mem_nil, false_implies,
      implies_true, and_true, Option.or_none, Option.or_some, Option.some.injEq]
    cases hcsvPath : gathered.csvPath <;>
      cases hread : gathered.read <;>
      cases hwrite : gathered.write <;>
      simp [msrSource, require, hcsvPath, hread, hwrite, bind, Except.bind, pure, Except.pure]

theorem msrSection_isMadeOf : msrSection.IsMadeOf msrSectionSlots where
  distinct := by simp [msrSectionSlots]
  exists_slot := by simp [msrSection, msrSectionSlots]
  empty := by simp [msrSection, msrSectionSlots]
  set_eq := by
    simp only [msrSectionSlots, List.forall_mem_cons, List.not_mem_nil, false_implies,
      implies_true, and_true]
    refine ⟨?_, ?_, ?_, ?_⟩ <;> intro value gathered <;> exact ⟨_, rfl, by simp⟩
  finish_eq_ok_iff := by
    rintro absent gathered ⟨headerPath, conditionPath, hookPath, sources⟩
    simp only [msrSectionSlots, List.forall_mem_cons, List.not_mem_nil, false_implies,
      implies_true, and_true, Option.or_none, Option.or_some, Option.some.injEq]
    cases hheaderPath : gathered.headerPath <;>
      cases hhookPath : gathered.hookPath <;>
      cases hsources : gathered.sources <;>
      simp [msrSection, require, hheaderPath, hhookPath, hsources, bind, Except.bind, pure,
        Except.pure]

end GuestCases.Settings
