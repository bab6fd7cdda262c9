import WanManager.WebConfigDecoding

/-! # Decoded requests

The request either decoder makes of a blob has, field by field, the last value given for it exactly
when no key is mistaken for another, no string is too long for its buffer or hides behind one that
was written before it, and the settings that are not cleared to a state of their own are given. -/

namespace WanManager.WebConfigDecoding
open Text Wire

/-! ## The subdocument `wan` -/

/-- The names `WanMgrDmlWanDataSet` knows. -/
def wanNames : List (List Char) := [wanmanagerKey, subdocKey, versionKey, transactionKey]

/-- The decoding of a blob is exact: nothing is written past a buffer or taken for what it is not,
an entry with another key does nothing, and the request has the last values given. -/
structure WanExact (blob : List Entry) : Prop where
  safe : wanMgrDmlWanDataSet blob ≠ .error .fault
  top : ∀ p ∈ blob, p.1 ∉ wanNames → ∀ r, wanParam r p = .ok r
  wanmanager : ∀ kvs ∈ wanMaps blob, ∀ p ∈ kvs, p.1 ≠ cpeInterfaceKey →
    ∀ r, wanmanagerParam r p = .ok r
  interface : ∀ kvs ∈ ifMaps blob, ∀ p ∈ kvs, p.1 ≠ nameKey → p.1 ≠ markingKey →
    ∀ e, ifParam e p = .ok e
  marking : ∀ kvs ∈ markingMaps blob, ∀ p ∈ kvs, p.1 ≠ aliasKey → p.1 ≠ markKey →
    ∀ e, markingParam e p = e
  filled : ∀ r, wanMgrDmlWanDataSet blob = .ok r → CommonFilled blob r ∧ r.failOver = none ∧
    Option.Rel (List.Forall₂ fun x e => ∃ kvs, x = .map kvs ∧ IfaceFilled kvs e)
      (tables blob).getLast? r.ifTable

/-- A key that is no name is taken for none, or for one that its value is not of the type for. -/
def WanApart (p : Entry) : Prop :=
  (Mistakable p.1 wanmanagerKey → ∃ kvs, p.2 = .map kvs ∧
    ∀ q ∈ kvs, strncmp q.1 cpeInterfaceKey = true → Obj.array? q.2 = none) ∧
  CommonApart p

/-- When the decoding is exact. -/
structure WanCondition (blob : List Entry) : Prop where
  safe : forM blob wanCheck ≠ .error .fault
  top : ∀ p ∈ blob, WanApart p
  wanmanager : ∀ kvs ∈ wanMaps blob, ∀ p ∈ kvs, Apart cpeInterfaceKey Obj.array? p
  interface : ∀ kvs ∈ ifMaps blob, IfaceApart kvs
  marking : ∀ kvs ∈ markingMaps blob, MarkingApart kvs
  settled : forM blob wanCheck = .ok () →
    ∀ xs ∈ (tables blob).getLast?, ∀ x ∈ xs, ∀ kvs, x = .map kvs → IfaceSettled kvs

/-- A map is none of the values both decoders know. -/
theorem commonApart_of_map {key : List Char} {kvs : List Entry} : CommonApart (key, .map kvs) :=
  ⟨fun _ => rfl, fun _ => rfl, fun _ => rfl⟩

theorem wanParam_ignored {p : Entry} (hp : p.1 ∉ wanNames) :
    (∀ r, wanParam r p = .ok r) ↔ WanApart p := by
  obtain ⟨key, v⟩ := p
  have hnull : '\x00' ∉ wanmanagerKey := by decide
  simp only [wanNames, List.mem_cons, List.not_mem_nil, or_false, not_or] at hp
  obtain ⟨hw, hs, hv, ht⟩ := hp
  by_cases hcmp : strncmp key wanmanagerKey = true
  · have hkey := mistakable_of_strncmp hnull hw hcmp
    simp only [wanParam, hcmp, if_true]
    constructor
    · intro h
      cases v with
      | map kvs =>
        exact ⟨fun _ => ⟨kvs, rfl, wanmanagerParams_ignored.mp h⟩, commonApart_of_map⟩
      | _ => exact absurd (h {}) (by simp [processWanmanagerParams])
    · rintro ⟨hwan, -⟩ r
      obtain ⟨kvs, hmap, hnone⟩ := hwan hkey
      obtain rfl : v = .map kvs := hmap
      exact wanmanagerParams_ignored.mpr hnone r
  · have hne : key ≠ [] := fun he => hcmp (by rw [he]; rfl)
    have hnot : ¬ Mistakable key wanmanagerKey := fun h => hcmp (strncmp_of_mistakable hnull h)
    simp only [wanParam, hcmp, Bool.false_eq_true, if_false]
    rw [commonParam_ignored hne hs hv ht]
    exact ⟨fun h => ⟨fun hm => absurd hm hnot, h⟩, fun h => h.2⟩

theorem wanApart_of_name {p : Entry} (hp : p.1 ∈ wanNames) : WanApart p := by
  have hnot : ∀ a ∈ wanNames, ∀ b ∈ wanNames, ¬ Mistakable a b := by decide
  exact ⟨fun h => absurd h (hnot _ hp _ (by decide)), fun h => absurd h (hnot _ hp _ (by decide)),
    fun h => absurd h (hnot _ hp _ (by decide)), fun h => absurd h (hnot _ hp _ (by decide))⟩

/-- An entry of a blob of which no key is mistaken is the table or one of the common fields. -/
theorem wanParam_step {p : Entry} (hp : WanApart p) {r r' : Request} (h : wanParam r p = .ok r') :
    CommonStep p r r' ∧
      ((∃ kvs, p = (wanmanagerKey, .map kvs) ∧ kvs.foldlM wanmanagerParam r = .ok r') ∨
        (p.1 ≠ wanmanagerKey ∧ r'.ifTable = r.ifTable)) ∧ r'.failOver = r.failOver := by
  obtain ⟨key, v⟩ := p
  by_cases hname : key ∈ wanNames
  · by_cases hw : key = wanmanagerKey
    · subst hw
      have hself : strncmp wanmanagerKey wanmanagerKey = true := by decide
      have hws : wanmanagerKey ≠ subdocKey := by decide
      have hwv : wanmanagerKey ≠ versionKey := by decide
      have hwt : wanmanagerKey ≠ transactionKey := by decide
      simp only [wanParam, hself, if_true] at h
      cases v with
      | map kvs =>
        obtain ⟨t, rfl⟩ := wanmanagerParams_table h
        exact ⟨.inr (.inr (.inr ⟨fun he => absurd he hws, fun he => absurd he hwv,
          fun he => absurd he hwt, rfl⟩)), .inl ⟨kvs, rfl, h⟩, rfl⟩
      | _ => exact absurd h (by simp [processWanmanagerParams])
    · have hcommon : key = subdocKey ∨ key = versionKey ∨ key = transactionKey := by
        simpa [wanNames, hw] using hname
      have hcmp : ∀ a ∈ [subdocKey, versionKey, transactionKey], strncmp a wanmanagerKey = false := by
        decide
      have hkey := hcmp key (by simpa using hcommon)
      simp only [wanParam, hkey, Bool.false_eq_true, if_false] at h
      have hstep := commonParam_step hcommon h
      obtain ⟨htable, hfail⟩ := commonParam_rest h
      exact ⟨hstep, .inr ⟨hw, htable⟩, hfail⟩
  · obtain rfl := Except.ok.inj (((wanParam_ignored hname).mpr hp r).symm.trans h)
    have hn := hname
    simp only [wanNames, List.mem_cons, List.not_mem_nil, or_false, not_or] at hn
    exact ⟨.inr (.inr (.inr ⟨fun he => absurd he hn.2.1, fun he => absurd he hn.2.2.1,
      fun he => absurd he hn.2.2.2, rfl⟩)), .inr ⟨hn.1, rfl⟩, rfl⟩

theorem mem_ifMaps {blob kvs : List Entry} :
    kvs ∈ ifMaps blob ↔ ∃ xs ∈ tables blob, .map kvs ∈ xs := by
  simp only [ifMaps, List.mem_flatMap, List.mem_filterMap]
  constructor
  · rintro ⟨xs, hxs, x, hx, hmap⟩
    cases x with
    | map m =>
      obtain rfl := Option.some.inj hmap
      exact ⟨xs, hxs, hx⟩
    | _ => exact absurd hmap (by simp [Obj.map?])
  · rintro ⟨xs, hxs, hx⟩
    exact ⟨xs, hxs, _, hx, rfl⟩

theorem mem_markingMaps {blob kvs : List Entry} :
    kvs ∈ markingMaps blob ↔ ∃ m ∈ ifMaps blob, ∃ xs ∈ valuesOf markingKey Obj.array? m,
      .map kvs ∈ xs := by
  simp only [markingMaps, List.mem_flatMap, List.mem_filterMap]
  constructor
  · rintro ⟨m, hm, xs, hxs, x, hx, hmap⟩
    cases x with
    | map m' =>
      obtain rfl := Option.some.inj hmap
      exact ⟨m, hm, xs, hxs, hx⟩
    | _ => exact absurd hmap (by simp [Obj.map?])
  · rintro ⟨m, hm, xs, hxs, hx⟩
    exact ⟨m, hm, xs, hxs, _, hx, rfl⟩

/-- What a request has when no key of its blob is mistaken. -/
theorem wanDataSet_eq {blob : List Entry} (htop : ∀ p ∈ blob, WanApart p)
    (hwan : ∀ kvs ∈ wanMaps blob, ∀ p ∈ kvs, Apart cpeInterfaceKey Obj.array? p) {r : Request}
    (h : wanMgrDmlWanDataSet blob = .ok r) :
    CommonFilled blob r ∧ r.failOver = none ∧ TableRead (tables blob).getLast? r.ifTable := by
  refine ⟨commonFilled (fun p hp {_ _} hstep => (wanParam_step (htop p hp) hstep).1) h, ?_, ?_⟩
  · refine foldlM_collect (g := fun _ => ([] : List Unit)) (R := fun _ r => Request.failOver r = none)
      rfl ?_ h
    intro p hp s s' _ hs hstep
    rw [(wanParam_step (htop p hp) hstep).2.2, hs]
  · have hassoc : tables blob = blob.flatMap fun p =>
        (if p.1 = wanmanagerKey then (Obj.map? p.2).toList else []).flatMap
          (valuesOf cpeInterfaceKey Obj.array?) := by
      rw [tables, wanMaps, valuesOf, List.flatMap_assoc]
    rw [hassoc]
    have hstart : TableRead ([] : List (List Obj)).getLast? ({} : Request).ifTable := .none
    refine foldlM_collect (R := fun (vs : List (List Obj)) (r : Request) =>
      TableRead vs.getLast? r.ifTable) hstart ?_ h
    intro p hp s s' vs hvs hstep
    obtain ⟨kvs, rfl, hfold⟩ | ⟨hkey, hsame⟩ := (wanParam_step (htop p hp) hstep).2.1
    · have hmem : kvs ∈ wanMaps blob := mem_valuesOf.mpr ⟨_, hp, rfl, rfl⟩
      simpa [Obj.map?] using wanmanagerParams_read (hwan kvs hmem) hvs hfold
    · rw [hsame]
      simpa [hkey] using hvs

/-- The tables of a request are filled if the names, the aliases and the marks are settled. -/
theorem tableFilled_iff {blob : List Entry} (hinterface : ∀ kvs ∈ ifMaps blob, IfaceApart kvs)
    (hmarking : ∀ kvs ∈ markingMaps blob, MarkingApart kvs) {t : Option (List Iface)}
    (h : TableRead (tables blob).getLast? t) :
    Option.Rel (List.Forall₂ fun x e => ∃ kvs, x = .map kvs ∧ IfaceFilled kvs e)
        (tables blob).getLast? t ↔
      ∀ xs ∈ (tables blob).getLast?, ∀ x ∈ xs, ∀ kvs, x = .map kvs → IfaceSettled kvs := by
  apply rel_iff h
  intro xs hxs t ht
  apply forall₂_iff (forall₂_of_mapM_zipIdx ht)
  rintro x hx e ⟨i, he⟩
  cases x with
  | map m =>
    have hm : m ∈ ifMaps blob := mem_ifMaps.mpr ⟨xs, List.mem_of_getLast? hxs, hx⟩
    have hmarkings : ∀ ys ∈ valuesOf markingKey Obj.array? m, ∀ y ∈ ys, ∀ m', y = .map m' →
        MarkingApart m' := by
      rintro ys hys y hy m' rfl
      exact hmarking m' (mem_markingMaps.mpr ⟨m, hm, ys, hys, hy⟩)
    have hfilled := ifaceFilled_iff (hinterface m hm) hmarkings he
    constructor
    · rintro ⟨_, hmap, hf⟩ m' hmap'
      obtain rfl : m = _ := Obj.map.inj hmap
      obtain rfl : m = _ := Obj.map.inj hmap'
      exact hfilled.mp hf
    · exact fun hs => ⟨m, rfl, hfilled.mpr (hs m rfl)⟩
  | _ => exact absurd he (by simp [processIfParams])

theorem wanExact_iff (blob : List Entry) : WanExact blob ↔ WanCondition blob := by
  have hsafe : wanMgrDmlWanDataSet blob ≠ .error .fault ↔ forM blob wanCheck ≠ .error .fault :=
    not_congr (foldlM_eq_error (fun p _ => wanParam_error p) {} .fault)
  have hok := @exists_ok _ _ blob wanParam_error {}
  constructor
  · intro h
    have htop : ∀ p ∈ blob, WanApart p := by
      intro p hp
      by_cases hname : p.1 ∈ wanNames
      · exact wanApart_of_name hname
      · exact (wanParam_ignored hname).mp (h.top p hp hname)
    have hwan : ∀ kvs ∈ wanMaps blob, ∀ p ∈ kvs, Apart cpeInterfaceKey Obj.array? p := by
      intro kvs hkvs p hp
      by_cases hname : p.1 = cpeInterfaceKey
      · exact fun hkey => absurd hname hkey.1
      · exact (wanmanagerParam_ignored hname).mp (h.wanmanager kvs hkvs p hp hname)
    have hinterface : ∀ kvs ∈ ifMaps blob, IfaceApart kvs := by
      intro kvs hkvs p hp
      have hnot : ∀ a ∈ [nameKey, markingKey], ∀ b ∈ [nameKey, markingKey], ¬ Mistakable a b := by
        decide
      by_cases hname : p.1 ∈ [nameKey, markingKey]
      · exact ⟨fun hkey => absurd hkey (hnot _ hname _ (by simp)),
          fun hkey => absurd hkey (hnot _ hname _ (by simp))⟩
      · simp only [List.mem_cons, List.not_mem_nil, or_false, not_or] at hname
        exact (ifParam_ignored hname.1 hname.2).mp (h.interface kvs hkvs p hp hname.1 hname.2)
    have hmarking : ∀ kvs ∈ markingMaps blob, MarkingApart kvs := by
      intro kvs hkvs p hp
      have hnot : ∀ a ∈ [aliasKey, markKey], ∀ b ∈ [aliasKey, markKey], ¬ Mistakable a b := by
        decide
      by_cases hname : p.1 ∈ [aliasKey, markKey]
      · exact ⟨fun hkey => absurd hkey (hnot _ hname _ (by simp)),
          fun hkey => absurd hkey (hnot _ hname _ (by simp))⟩
      · simp only [List.mem_cons, List.not_mem_nil, or_false, not_or] at hname
        exact (markingParam_ignored hname.1 hname.2).mp (h.marking kvs hkvs p hp hname.1 hname.2)
    refine ⟨hsafe.mp h.safe, htop, hwan, hinterface, hmarking, fun hcheck => ?_⟩
    obtain ⟨r, hr⟩ := hok.mp hcheck
    obtain ⟨-, -, htable⟩ := wanDataSet_eq htop hwan hr
    exact (tableFilled_iff hinterface hmarking htable).mp (h.filled r hr).2.2
  · intro h
    refine ⟨hsafe.mpr h.safe, fun p hp hname => (wanParam_ignored hname).mpr (h.top p hp),
      fun kvs hkvs p hp hname => (wanmanagerParam_ignored hname).mpr (h.wanmanager kvs hkvs p hp),
      fun kvs hkvs p hp hn hm => (ifParam_ignored hn hm).mpr (h.interface kvs hkvs p hp),
      fun kvs hkvs p hp ha hm => (markingParam_ignored ha hm).mpr (h.marking kvs hkvs p hp),
      fun r hr => ?_⟩
    obtain ⟨hcommon, hfail, htable⟩ := wanDataSet_eq h.top h.wanmanager hr
    have hcheck := hok.mpr ⟨r, hr⟩
    exact ⟨hcommon, hfail, (tableFilled_iff h.interface h.marking htable).mpr (h.settled hcheck)⟩

/-! ## The subdocument `wanfailover` -/

/-- The names `WanMgrDmlWanFailOverDataSet` knows. -/
def failOverNames : List (List Char) := [wanfailoverKey, subdocKey, versionKey, transactionKey]

/-- The maps under `wanfailover`. -/
def failOverMaps (blob : List Entry) : List (List Entry) := valuesOf wanfailoverKey Obj.map? blob

/-- The values given for `allow_remote_interfaces`. -/
def allowValues (blob : List Entry) : List Bool :=
  (failOverMaps blob).flatMap (valuesOf allowKey Obj.boolean?)

/-- The decoding of a blob is exact whatever the memory held; without a value for the setting, the
request leaves the setting. -/
structure FailOverExact (blob : List Entry) : Prop where
  safe : ∀ memory, wanMgrDmlWanFailOverDataSet memory blob ≠ .error .fault
  top : ∀ p ∈ blob, p.1 ∉ failOverNames → ∀ memory r, failOverParam memory r p = .ok r
  wanfailover : ∀ kvs ∈ failOverMaps blob, ∀ p ∈ kvs, p.1 ≠ allowKey →
    ∀ allow, wanFailOverParam allow p = allow
  filled : ∀ memory r, wanMgrDmlWanFailOverDataSet memory blob = .ok r →
    CommonFilled blob r ∧ r.ifTable = none ∧
    (∀ v ∈ (allowValues blob).getLast?, r.failOver = some v) ∧
    (allowValues blob = [] → ∀ host d,
      (WebConfig.processWebconfigRequest host { failOver := r.failOver } d).2.allowRemoteInterfaces =
        d.allowRemoteInterfaces)

/-- When the decoding is exact. -/
structure FailOverCondition (blob : List Entry) : Prop where
  safe : forM blob failOverCheck ≠ .error .fault
  top : ∀ p ∈ blob, ¬ Mistakable p.1 wanfailoverKey ∧ CommonApart p
  wanfailover : ∀ kvs ∈ failOverMaps blob, ∀ p ∈ kvs, Apart allowKey Obj.boolean? p
  given : ∀ kvs ∈ (failOverMaps blob).getLast?, valuesOf allowKey Obj.boolean? kvs ≠ []

theorem failOverParam_ignored {p : Entry} (hp : p.1 ∉ failOverNames) :
    (∀ memory r, failOverParam memory r p = .ok r) ↔
      ¬ Mistakable p.1 wanfailoverKey ∧ CommonApart p := by
  obtain ⟨key, v⟩ := p
  have hnull : '\x00' ∉ wanfailoverKey := by decide
  simp only [failOverNames, List.mem_cons, List.not_mem_nil, or_false, not_or] at hp
  obtain ⟨hw, hs, hv, ht⟩ := hp
  by_cases hcmp : strncmp key wanfailoverKey = true
  · have hkey := mistakable_of_strncmp hnull hw hcmp
    simp only [failOverParam, hcmp, if_true]
    constructor
    · intro h
      have hwrite := h true {}
      cases v <;> simp [processWanFailOverParams] at hwrite
    · exact fun h => absurd hkey h.1
  · have hne : key ≠ [] := fun he => hcmp (by rw [he]; rfl)
    have hnot : ¬ Mistakable key wanfailoverKey := fun h => hcmp (strncmp_of_mistakable hnull h)
    simp only [failOverParam, hcmp, Bool.false_eq_true, if_false]
    rw [← commonParam_ignored hne hs hv ht]
    exact ⟨fun h => ⟨hnot, h true⟩, fun h _ => h.2⟩

theorem wanFailOverParam_ignored {p : Entry} (hp : p.1 ≠ allowKey) :
    (∀ allow, wanFailOverParam allow p = allow) ↔ Apart allowKey Obj.boolean? p := by
  obtain ⟨key, v⟩ := p
  have hnull : '\x00' ∉ allowKey := by decide
  constructor
  · intro h hkey
    have hcmp := strncmp_of_mistakable hnull hkey
    cases v with
    | boolean b => simpa [wanFailOverParam, hcmp] using h (!b)
    | _ => rfl
  · intro h allow
    by_cases hcmp : strncmp key allowKey = true
    · have hb := h (mistakable_of_strncmp hnull hp hcmp)
      cases v <;> simp_all [wanFailOverParam, Obj.boolean?]
    · cases v <;> simp [wanFailOverParam, hcmp]

/-- The setting is the last value given for it, or what the memory held. -/
theorem foldl_wanFailOverParam {kvs : List Entry} (hkeys : ∀ p ∈ kvs, Apart allowKey Obj.boolean? p)
    (memory : Bool) :
    kvs.foldl wanFailOverParam memory =
      (valuesOf allowKey Obj.boolean? kvs).getLast?.getD memory := by
  have hself : strncmp allowKey allowKey = true := by decide
  apply foldl_collect (R := fun (vs : List Bool) allow => allow = vs.getLast?.getD memory) rfl
  intro p hp allow vs hvs
  by_cases hkey : p.1 = allowKey
  · obtain ⟨key, v⟩ := p
    obtain rfl : key = allowKey := hkey
    cases v <;> simp [wanFailOverParam, hself, Obj.boolean?, hvs]
  · rw [(wanFailOverParam_ignored hkey).mpr (hkeys p hp)]
    simpa [hkey] using hvs

theorem failOverParam_step {p : Entry} (hp : ¬ Mistakable p.1 wanfailoverKey ∧ CommonApart p)
    {memory : Bool} {r r' : Request} (h : failOverParam memory r p = .ok r') :
    CommonStep p r r' ∧
      ((∃ kvs, p = (wanfailoverKey, .map kvs) ∧
        r'.failOver = some (kvs.foldl wanFailOverParam memory)) ∨
        (p.1 ≠ wanfailoverKey ∧ r'.failOver = r.failOver)) ∧ r'.ifTable = r.ifTable := by
  obtain ⟨key, v⟩ := p
  by_cases hname : key ∈ failOverNames
  · by_cases hw : key = wanfailoverKey
    · subst hw
      have hself : strncmp wanfailoverKey wanfailoverKey = true := by decide
      have hws : wanfailoverKey ≠ subdocKey := by decide
      have hwv : wanfailoverKey ≠ versionKey := by decide
      have hwt : wanfailoverKey ≠ transactionKey := by decide
      simp only [failOverParam, hself, if_true] at h
      cases v with
      | map kvs =>
        obtain rfl := Except.ok.inj h
        exact ⟨.inr (.inr (.inr ⟨fun he => absurd he hws, fun he => absurd he hwv,
          fun he => absurd he hwt, rfl⟩)), .inl ⟨kvs, rfl, rfl⟩, rfl⟩
      | _ => exact absurd h (by simp [processWanFailOverParams])
    · have hcommon : key = subdocKey ∨ key = versionKey ∨ key = transactionKey := by
        simpa [failOverNames, hw] using hname
      have hcmp : ∀ a ∈ [subdocKey, versionKey, transactionKey],
          strncmp a wanfailoverKey = false := by decide
      have hkey := hcmp key (by simpa using hcommon)
      simp only [failOverParam, hkey, Bool.false_eq_true, if_false] at h
      obtain ⟨htable, hfail⟩ := commonParam_rest h
      exact ⟨commonParam_step hcommon h, .inr ⟨hw, hfail⟩, htable⟩
  · obtain rfl := Except.ok.inj (((failOverParam_ignored hname).mpr hp memory r).symm.trans h)
    have hn := hname
    simp only [failOverNames, List.mem_cons, List.not_mem_nil, or_false, not_or] at hn
    exact ⟨.inr (.inr (.inr ⟨fun he => absurd he hn.2.1, fun he => absurd he hn.2.2.1,
      fun he => absurd he hn.2.2.2, rfl⟩)), .inr ⟨hn.1, rfl⟩, rfl⟩

/-- What a request has when no key of its blob is mistaken. -/
theorem failOverDataSet_eq {blob : List Entry}
    (htop : ∀ p ∈ blob, ¬ Mistakable p.1 wanfailoverKey ∧ CommonApart p) {memory : Bool} {r : Request}
    (h : wanMgrDmlWanFailOverDataSet memory blob = .ok r) :
    CommonFilled blob r ∧ r.ifTable = none ∧
      r.failOver = (failOverMaps blob).getLast?.map fun kvs => kvs.foldl wanFailOverParam memory := by
  refine ⟨commonFilled (fun p hp {_ _} hstep => (failOverParam_step (htop p hp) hstep).1) h, ?_, ?_⟩
  · refine foldlM_collect (g := fun _ => ([] : List Unit)) (R := fun _ r => Request.ifTable r = none)
      rfl ?_ h
    intro p hp s s' _ hs hstep
    rw [(failOverParam_step (htop p hp) hstep).2.2, hs]
  · refine foldlM_collect (R := fun (ms : List (List Entry)) (r : Request) =>
      r.failOver = ms.getLast?.map fun kvs => kvs.foldl wanFailOverParam memory) rfl ?_ h
    intro p hp s s' ms hms hstep
    obtain ⟨kvs, rfl, hfail⟩ | ⟨hkey, hsame⟩ := (failOverParam_step (htop p hp) hstep).2.1
    · simpa [Obj.map?] using hfail
    · rw [hsame]
      simpa [hkey] using hms

/-- This decoder refuses nothing. -/
theorem failOverCheck_ok {blob : List Entry} (h : forM blob failOverCheck ≠ .error .fault) :
    forM blob failOverCheck = .ok () := by
  have hcheck : ∀ p : Entry, failOverCheck p ≠ .error .refused := by
    rintro ⟨key, v⟩
    cases v <;> simp only [failOverCheck, commonCheck] <;> split_ifs <;> simp
  have hforM : forM blob failOverCheck ≠ .error .refused := by
    clear h
    induction blob with
    | nil => simp [pure, Except.pure]
    | cons p blob ih =>
      rw [List.forM_cons]
      cases hp : failOverCheck p with
      | ok => exact ih
      | error f =>
        cases f with
        | refused => exact absurd hp (hcheck p)
        | fault => simp [bind, Except.bind]
  cases hrun : forM blob failOverCheck with
  | ok => rfl
  | error f =>
    cases f with
    | refused => exact absurd hrun hforM
    | fault => exact absurd hrun h

theorem failOver_safe_iff (blob : List Entry) (memory : Bool) :
    wanMgrDmlWanFailOverDataSet memory blob ≠ .error .fault ↔
      forM blob failOverCheck ≠ .error .fault :=
  not_congr (foldlM_eq_error (fun p _ => failOverParam_error memory p) {} .fault)

/-- The values of the last map stand behind the others. -/
theorem allowValues_eq {blob kvs : List Entry} (hkvs : kvs ∈ (failOverMaps blob).getLast?) :
    ∃ before, allowValues blob = before ++ valuesOf allowKey Obj.boolean? kvs := by
  obtain ⟨maps, hmaps⟩ := List.getLast?_eq_some_iff.mp hkvs
  refine ⟨maps.flatMap (valuesOf allowKey Obj.boolean?), ?_⟩
  rw [allowValues, hmaps, List.flatMap_append, List.flatMap_singleton]

theorem FailOverExact.condition {blob : List Entry} (h : FailOverExact blob) :
    FailOverCondition blob := by
  have hcheck := (failOver_safe_iff blob true).mp (h.safe true)
  have htop : ∀ p ∈ blob, ¬ Mistakable p.1 wanfailoverKey ∧ CommonApart p := by
    intro p hp
    by_cases hname : p.1 ∈ failOverNames
    · have hnot : ∀ a ∈ failOverNames, ∀ b ∈ failOverNames, ¬ Mistakable a b := by decide
      exact ⟨hnot _ hname _ (by decide), fun h => absurd h (hnot _ hname _ (by decide)),
        fun h => absurd h (hnot _ hname _ (by decide)),
        fun h => absurd h (hnot _ hname _ (by decide))⟩
    · exact (failOverParam_ignored hname).mp (h.top p hp hname)
  have hwan : ∀ kvs ∈ failOverMaps blob, ∀ p ∈ kvs, Apart allowKey Obj.boolean? p := by
    intro kvs hkvs p hp
    by_cases hname : p.1 = allowKey
    · exact fun hkey => absurd hname hkey.1
    · exact (wanFailOverParam_ignored hname).mp (h.wanfailover kvs hkvs p hp hname)
  refine ⟨hcheck, htop, hwan, fun kvs hkvs hnil => ?_⟩
  -- without a value in the last map, the setting is what the memory held
  have hmemory : ∀ memory, ∃ r, wanMgrDmlWanFailOverDataSet memory blob = .ok r ∧
      r.failOver = some memory := by
    intro memory
    obtain ⟨r, hr⟩ := (exists_ok (failOverParam_error memory) {}).mp (failOverCheck_ok hcheck)
    obtain ⟨-, -, hfail⟩ := failOverDataSet_eq htop hr
    refine ⟨r, hr, ?_⟩
    rw [hfail, Option.mem_def.mp hkvs, Option.map_some,
      foldl_wanFailOverParam (hwan kvs (List.mem_of_getLast? hkvs)), hnil]
    rfl
  cases hlast : (allowValues blob).getLast? with
  | none =>
    obtain ⟨r, hr, hfail⟩ := hmemory true
    have hkept := (h.filled true r hr).2.2.2 (List.getLast?_eq_none_iff.mp hlast)
      ⟨fun _ _ => true, fun _ _ => true, ""⟩ ⟨false, []⟩
    rw [hfail] at hkept
    exact absurd hkept (by decide)
  | some v =>
    obtain ⟨r, hr, hfail⟩ := hmemory (!v)
    have hv := (h.filled (!v) r hr).2.2.1 v hlast
    rw [hfail] at hv
    simp at hv

theorem FailOverCondition.failOverExact {blob : List Entry} (h : FailOverCondition blob) :
    FailOverExact blob := by
  refine ⟨fun memory => (failOver_safe_iff blob memory).mpr h.safe,
    fun p hp hname => (failOverParam_ignored hname).mpr (h.top p hp),
    fun kvs hkvs p hp hname => (wanFailOverParam_ignored hname).mpr (h.wanfailover kvs hkvs p hp),
    fun memory r hr => ?_⟩
  obtain ⟨hcommon, htable, hfail⟩ := failOverDataSet_eq h.top hr
  cases hlast : (failOverMaps blob).getLast? with
  | none =>
    have hvalues : allowValues blob = [] := by
      rw [allowValues, List.getLast?_eq_none_iff.mp hlast, List.flatMap_nil]
    rw [hlast] at hfail
    refine ⟨hcommon, htable, fun v hv => ?_, fun _ host d => by rw [hfail]; rfl⟩
    rw [hvalues] at hv
    cases hv
  | some kvs =>
    have hne := h.given kvs hlast
    obtain ⟨before, hvalues⟩ := allowValues_eq hlast
    refine ⟨hcommon, htable, fun v hv => ?_, fun hnil => ?_⟩
    · rw [hvalues, List.getLast?_append_of_ne_nil _ hne] at hv
      rw [hfail, hlast, Option.map_some,
        foldl_wanFailOverParam (h.wanfailover kvs (List.mem_of_getLast? hlast)), Option.mem_def.mp hv]
      rfl
    · rw [hvalues] at hnil
      exact absurd (List.append_eq_nil_iff.mp hnil).2 hne

theorem failOverExact_iff (blob : List Entry) : FailOverExact blob ↔ FailOverCondition blob :=
  ⟨FailOverExact.condition, FailOverCondition.failOverExact⟩

/-- Both decoders are exact on the blobs that meet their condition, and on no others. -/
theorem decoding_exact (blob : List Entry) :
    (WanExact blob ↔ WanCondition blob) ∧ (FailOverExact blob ↔ FailOverCondition blob) :=
  ⟨wanExact_iff blob, failOverExact_iff blob⟩

/-- A blob that says nothing of `allow_remote_interfaces` makes the setting what the memory held;
a key that is a start of a name is taken for it; a subdocument name of 64 characters is written past
its buffer. -/
theorem decoding_inexact :
    ¬ ((∀ blob, WanExact blob) ∧ ∀ blob, FailOverExact blob) ∧
      (wanMgrDmlWanFailOverDataSet true [(wanfailoverKey, .map [])]).map (·.failOver) =
        .ok (some true) ∧
      (wanMgrDmlWanDataSet [("ver".toList, .positiveInteger 7)]).map (·.version) = .ok 7 ∧
      (wanMgrDmlWanDataSet [(subdocKey, .str (List.replicate 64 'a'))]).map (·.version) =
        .error .fault := by
  refine ⟨fun h => ?_, by decide +kernel, by decide +kernel, by decide +kernel⟩
  have hexact := h.2 [(wanfailoverKey, .map [])]
  have hfilled := hexact.filled true { failOver := some true } rfl
  have hkept := hfilled.2.2.2 rfl ⟨fun _ _ => true, fun _ _ => true, ""⟩ ⟨false, []⟩
  exact absurd hkept (by decide)

end WanManager.WebConfigDecoding
