import SwCouriers.PickupAddresses
import SwCouriers.Lib.Marked
import SwCouriers.Lib.Runs

/-!
# The Default Pickup Address

Whoever has pickup addresses has one default among them. The first address of an owner becomes
the default if none of its batch is meant to be, an address that is made the default takes that
from the others, and when staff delete the default the oldest address that is left takes its
place. A customer who deletes the default of the account is left without one: `delete_address`
does not promote, and neither does the creation of further addresses, which only looks whether
the account has any.

## Main results

* `createEach_spec`: what the creation of a batch does to the defaults of each owner.
* `oneDefault_step_iff`: which requests keep one default for every owner.
* `one_default_iff`: in exactly those runs where no customer deletes the default from among
  other addresses, every owner with addresses has exactly one default at all times.
-/

namespace SwCouriers.PickupAddresses

open Checked Marked

/-! ### Scopes -/

/-- How many addresses of the owner are the default. -/
def Db.defaults (db : Db) (owner : PickupAddressOwner) : ℕ :=
  (db.listForScope owner).countP (·.isDefault)

/-- At most one address of the owner is the default, and one is when there are any. -/
def Db.OneDefault (db : Db) (owner : PickupAddressOwner) : Prop :=
  OneMarked (·.isDefault) (db.listForScope owner)

theorem nodup_listForScope (db : Db) (owner : PickupAddressOwner) :
    ((db.listForScope owner).map (·.id)).Nodup :=
  db.addresses.nodup.sublist (List.filter_sublist.map _)

variable {db db' : Db} {owner o : PickupAddressOwner} {r : PickupAddress}
  {f : PickupAddress → PickupAddress} {addressId : Id} {items : List PickupAddressCreate}

theorem mem_listForScope : r ∈ db.listForScope owner ↔ r ∈ db.addresses.rows ∧ r.owner = owner := by
  simp [Db.listForScope]

/-- A rewrite of rows that keeps their owners rewrites each scope. -/
theorem listForScope_mapRows (hid : ∀ r, (f r).id = r.id) (howner : ∀ r, (f r).owner = r.owner)
    (owner : PickupAddressOwner) :
    Db.listForScope { db with addresses := db.addresses.mapRows f hid } owner
      = (db.listForScope owner).map f := by
  simp only [Db.listForScope, Table.rows_mapRows, List.filter_map]
  congr 1
  exact List.filter_congr fun r _ => by simp [howner]

theorem listForScope_updateById (db : Db) (addressId : Id) (hid : ∀ r, (f r).id = r.id)
    (howner : ∀ r, (f r).owner = r.owner) (owner : PickupAddressOwner) :
    (db.updateById addressId f hid).listForScope owner
      = (db.listForScope owner).map fun r => if r.id = addressId then f r else r :=
  listForScope_mapRows (f := fun r => if r.id = addressId then f r else r) _
    (fun r => by split_ifs <;> simp [howner]) owner

theorem listForScope_clear (db : Db) (owner o : PickupAddressOwner) :
    (db.clearDefaultForScope owner).listForScope o
      = (db.listForScope o).map (PickupAddress.clearedFor owner) :=
  listForScope_mapRows (f := PickupAddress.clearedFor owner) (fun _ => rfl) (fun _ => rfl) o

/-- Clearing an owner's defaults leaves the others' addresses as they are. -/
theorem listForScope_clear_of_ne (hne : o ≠ owner) :
    (db.clearDefaultForScope owner).listForScope o = db.listForScope o := by
  rw [listForScope_clear]
  refine (List.map_congr_left fun r hr => ?_).trans (List.map_id _)
  rw [PickupAddress.clearedFor, if_neg fun h => hne ((mem_listForScope.mp hr).2 ▸ h)]
  rfl

/-- It leaves the owner without one. -/
theorem defaults_clear (db : Db) (owner : PickupAddressOwner) :
    (db.clearDefaultForScope owner).defaults owner = 0 := by
  rw [Db.defaults, listForScope_clear]
  refine countP_map_clear fun r hr => ?_
  rw [PickupAddress.clearedFor, if_pos (mem_listForScope.mp hr).2]

theorem rows_insert_fresh (hfresh : r.id = db.addresses.fresh) :
    (db.addresses.insert r).rows = db.addresses.rows ++ [r] :=
  Table.rows_insert_of_notMem (hfresh ▸ db.addresses.fresh_notMem)

/-- A new address is the last of its owner's. -/
theorem listForScope_insert (hfresh : r.id = db.addresses.fresh) :
    Db.listForScope { db with addresses := db.addresses.insert r } r.owner
      = db.listForScope r.owner ++ [r] := by
  simp [Db.listForScope, rows_insert_fresh hfresh]

theorem listForScope_insert_of_ne (hfresh : r.id = db.addresses.fresh) (hne : owner ≠ r.owner) :
    Db.listForScope { db with addresses := db.addresses.insert r } owner
      = db.listForScope owner := by
  simp [Db.listForScope, rows_insert_fresh hfresh, Ne.symm hne]

theorem listForScope_hardDelete (db : Db) (addressId : Id) (owner : PickupAddressOwner) :
    (db.hardDelete addressId).listForScope owner
      = (db.listForScope owner).filter fun r => ¬ r.id = addressId := by
  simp only [Db.listForScope, Db.hardDelete, Table.deleteWhere]
  exact List.filter_comm _ _ _

/-- A row in scope, and only in that one. -/
theorem getForScope_eq_ok :
    db.getForScope addressId owner = .ok r ↔ r ∈ db.listForScope owner ∧ r.id = addressId := by
  rw [Db.getForScope, orRaise_eq_ok, Option.filter_eq_some_iff, Table.find?_eq_some_iff,
    mem_listForScope, decide_eq_true_eq]
  exact and_right_comm

theorem id_ne_of_ne {r' : PickupAddress} (hr : r ∈ db.listForScope owner)
    (hr' : r' ∈ db.listForScope o) (hne : o ≠ owner) : r'.id ≠ r.id := by
  obtain ⟨hr, howner⟩ := mem_listForScope.mp hr
  obtain ⟨hr', howner'⟩ := mem_listForScope.mp hr'
  intro hid
  exact hne (by rw [← howner, ← howner', Table.eq_of_key hr' hr hid])

/-- A write to one row leaves the other owners' addresses as they are. -/
theorem listForScope_updateById_of_ne (hr : r ∈ db.listForScope owner) (hne : o ≠ owner)
    (hid : ∀ r, (f r).id = r.id) (howner : ∀ r, (f r).owner = r.owner) :
    (db.updateById r.id f hid).listForScope o = db.listForScope o := by
  rw [listForScope_updateById db r.id hid howner]
  exact (List.map_congr_left fun r' hr' => if_neg (id_ne_of_ne hr hr' hne)).trans (List.map_id _)

theorem listForScope_hardDelete_of_ne (hr : r ∈ db.listForScope owner) (hne : o ≠ owner) :
    (db.hardDelete r.id).listForScope o = db.listForScope o := by
  rw [listForScope_hardDelete, List.filter_eq_self]
  intro r' hr'
  simpa using id_ne_of_ne hr hr' hne

/-! ### Creating -/

/-- **What one round of a creation does**: the owner has one more address, and if that is to be
the default, it is the only one. -/
theorem createAddress_spec {org : Option Organization} {createdByUserId : Id}
    {item : PickupAddressCreate} (h : createAddress owner org createdByUserId db item = .ok db') :
    (∀ o, o ≠ owner → db'.listForScope o = db.listForScope o) ∧ db'.listForScope owner ≠ [] ∧
      db'.defaults owner = if item.isDefault then 1 else db.defaults owner := by
  obtain ⟨lines, -, h⟩ := bind_eq_ok.mp h
  obtain rfl := pure_eq_ok.mp h
  obtain ⟨db₁, hdb₁⟩ : ∃ d, d = if item.isDefault then db.clearDefaultForScope owner else db :=
    ⟨_, rfl⟩
  rw [← hdb₁]
  have hlist : Db.listForScope { db₁ with
      addresses := db₁.addresses.insert (newAddress db₁ owner createdByUserId item lines) } owner
        = db₁.listForScope owner ++ [newAddress db₁ owner createdByUserId item lines] :=
    listForScope_insert (r := newAddress db₁ owner createdByUserId item lines) rfl
  refine ⟨fun o hne => ?_, ?_, ?_⟩
  · refine (listForScope_insert_of_ne (r := newAddress db₁ owner createdByUserId item lines) rfl
      hne).trans ?_
    rw [hdb₁]
    split_ifs
    · exact listForScope_clear_of_ne hne
    · rfl
  · rw [hlist]
    simp
  · have hmark : [newAddress db₁ owner createdByUserId item lines].countP (·.isDefault)
        = if item.isDefault then 1 else 0 := by
      rw [List.countP_singleton]
      rfl
    rw [Db.defaults, hlist, List.countP_append, hmark, hdb₁]
    split_ifs
    · exact congrArg (· + 1) (defaults_clear db owner)
    · rfl

/-- **What the creation of a batch does**: the owner has one default if some entry of the batch
is meant to be it, and else as many as before. -/
theorem createEach_spec {org : Option Organization} {createdByUserId : Id}
    (h : createEach owner org createdByUserId db items = .ok db') :
    (∀ o, o ≠ owner → db'.listForScope o = db.listForScope o) ∧
      (items = [] → db' = db) ∧ (items ≠ [] → db'.listForScope owner ≠ []) ∧
      db'.defaults owner = if items.any (·.isDefault) then 1 else db.defaults owner := by
  induction items generalizing db with
  | nil =>
      obtain rfl := Except.ok.inj h
      exact ⟨fun _ _ => rfl, fun _ => rfl, fun hne => absurd rfl hne, rfl⟩
  | cons item items ih =>
      obtain ⟨db₁, hitem, h⟩ := bind_eq_ok.mp h
      obtain ⟨hothers, hne, hdefaults⟩ := createAddress_spec hitem
      obtain ⟨hothers', hnil, hne', hdefaults'⟩ := ih h
      refine ⟨fun o ho => (hothers' o ho).trans (hothers o ho),
        fun hcons => absurd hcons (List.cons_ne_nil _ _), fun _ => ?_, ?_⟩
      · by_cases hitems : items = []
        · rw [hnil hitems]
          exact hne
        · exact hne' hitems
      · rw [hdefaults', hdefaults, List.any_cons]
        cases item.isDefault <;> cases items.any (·.isDefault) <;> rfl

/-- A batch for an owner without addresses has a default. -/
theorem any_coerceDefaultFlags (hne : items ≠ []) :
    (coerceDefaultFlags items false).any (·.isDefault) = true := by
  cases items with
  | nil => exact absurd rfl hne
  | cons first rest =>
      unfold coerceDefaultFlags
      dsimp only
      rw [if_neg Bool.false_ne_true]
      split_ifs with hany
      · exact hany
      · simp

theorem coerceDefaultFlags_eq_nil {scopeHasAddresses : Bool} :
    coerceDefaultFlags items scopeHasAddresses = [] ↔ items = [] := by
  cases items with
  | nil => exact iff_of_true rfl rfl
  | cons first rest =>
      refine iff_of_false ?_ (List.cons_ne_nil _ _)
      unfold coerceDefaultFlags
      dsimp only
      split_ifs <;> simp

/-- **Creating keeps one default** for every owner. -/
theorem oneDefault_createEach {org : Option Organization} {createdByUserId : Id}
    (h : createEach owner org createdByUserId db
      (coerceDefaultFlags items (db.listForScope owner ≠ [])) = .ok db')
    (hone : ∀ o, db.OneDefault o) (o : PickupAddressOwner) : db'.OneDefault o := by
  obtain ⟨hothers, hnil, hne, hdefaults⟩ := createEach_spec h
  by_cases ho : o = owner
  swap
  · rw [Db.OneDefault, hothers o ho]
    exact hone o
  subst ho
  by_cases hitems : items = []
  · rw [hnil (coerceDefaultFlags_eq_nil.mpr hitems)]
    exact hone o
  rw [Db.OneDefault, oneMarked_iff_of_ne_nil
    (hne fun hnone => hitems (coerceDefaultFlags_eq_nil.mp hnone))]
  refine hdefaults.trans ?_
  split_ifs with hany
  · rfl
  -- No entry is meant to be the default, so the owner had addresses.
  · by_cases hempty : db.listForScope o = []
    · rw [decide_eq_false (not_not.mpr hempty)] at hany
      exact absurd (any_coerceDefaultFlags hitems) hany
    · exact (hone o).2 hempty

/-! ### Updating -/

/-- Rewriting one address of an owner keeps one default for every owner, when it leaves its own
one default. -/
theorem oneDefault_updateById {row : PickupAddress} {hid : ∀ r, (f r).id = r.id}
    (hmem : row ∈ db.listForScope owner) (howner : ∀ r, (f r).owner = r.owner)
    (hone : ∀ o, o ≠ owner → db.OneDefault o)
    (hcount : db.defaults owner + (if (f row).isDefault then 1 else 0)
      = 1 + if row.isDefault then 1 else 0) (o : PickupAddressOwner) :
    (db.updateById row.id f hid).OneDefault o := by
  by_cases ho : o = owner
  · have hmarked := countP_map_at (p := (·.isDefault)) (nodup_listForScope db owner) hmem f
    rw [ho]
    refine (congrArg (OneMarked _) (listForScope_updateById db row.id hid howner owner)).mpr
      (oneMarked_of_countP_eq_one ?_)
    exact Nat.add_right_cancel (hmarked.trans hcount)
  · exact (congrArg (OneMarked _) (listForScope_updateById_of_ne hmem ho hid howner)).mpr
      (hone o ho)

theorem apply_owner (env : Env) (data : PickupAddressUpdate) (r : PickupAddress) :
    (data.apply env r).owner = r.owner := rfl

/-- **Updating keeps one default** for every owner, unless it says that the address is none. -/
theorem oneDefault_updateInScope {env : Env} {data : PickupAddressUpdate}
    (hdata : data.isDefault ≠ some false) (h : updateInScope env db owner addressId data = .ok db')
    (hone : ∀ o, db.OneDefault o) (o : PickupAddressOwner) : db'.OneDefault o := by
  obtain ⟨row, hrow, h⟩ := bind_eq_ok.mp h
  obtain rfl := pure_eq_ok.mp h
  obtain ⟨hmem, rfl⟩ := getForScope_eq_ok.mp hrow
  by_cases hdefault : data.isDefault = some true
  · rw [if_pos hdefault]
    -- The row is still there when the defaults were cleared.
    have hcleared : row.clearedFor owner ∈ (db.clearDefaultForScope owner).listForScope owner := by
      rw [listForScope_clear]
      exact List.mem_map_of_mem hmem
    have hzero : (db.clearDefaultForScope owner).defaults owner = 0 := defaults_clear db owner
    have hoff : (row.clearedFor owner).isDefault = false :=
      eq_false_of_ne_true (List.countP_eq_zero.mp hzero _ hcleared)
    have hon : (data.apply env (row.clearedFor owner)).isDefault = true := by
      simp [PickupAddressUpdate.apply, hdefault]
    refine oneDefault_updateById hcleared (apply_owner env data)
      (fun o ho => ?_) ?_ o
    · rw [Db.OneDefault, listForScope_clear_of_ne ho]
      exact hone o
    · rw [hzero, hoff, hon]
      rfl
  · rw [if_neg hdefault]
    have hunset : data.isDefault = none := by
      cases hvalue : data.isDefault with
      | none => rfl
      | some b => cases b <;> simp_all
    have hkept : (data.apply env row).isDefault = row.isDefault := by
      simp [PickupAddressUpdate.apply, hunset]
    refine oneDefault_updateById hmem (apply_owner env data)
      (fun o _ => hone o) ?_ o
    rw [hkept]
    exact congrArg (· + _) ((hone owner).2 (List.ne_nil_of_mem hmem))

/-! ### Deleting -/

theorem promoted_owner (r : PickupAddress) : r.promoted.owner = r.owner := rfl

/-- Removing an address leaves one default unless it was the default among others. -/
theorem oneDefault_hardDelete_iff {row : PickupAddress} (hrow : row ∈ db.listForScope owner)
    (hone : ∀ o, db.OneDefault o) :
    (∀ o, (db.hardDelete row.id).OneDefault o) ↔
      ¬ (row.isDefault = true ∧ ∃ other ∈ db.listForScope owner, other.id ≠ row.id) := by
  have hlist := listForScope_hardDelete db row.id owner
  have hothers : (∃ other ∈ db.listForScope owner, other.id ≠ row.id) ↔
      (db.listForScope owner).filter (fun r => ¬ r.id = row.id) ≠ [] := by
    rw [Ne, List.filter_eq_nil_iff]
    simp
  rw [hothers, ← oneMarked_filter_ne_iff (hone owner) (nodup_listForScope db owner) hrow]
  constructor
  · intro h
    have hself := h owner
    rwa [Db.OneDefault, hlist] at hself
  · intro h o
    by_cases ho : o = owner
    · rw [ho, Db.OneDefault, hlist]
      exact h
    · rw [Db.OneDefault, listForScope_hardDelete_of_ne hrow ho]
      exact hone o

/-- **The promotion gives the owner a default** again, when there are addresses left. -/
theorem oneDefault_promoteOldest (hnone : db.defaults owner = 0)
    (hone : ∀ o, o ≠ owner → db.OneDefault o) (o : PickupAddressOwner) :
    (db.promoteOldest owner).OneDefault o := by
  unfold Db.promoteOldest
  split
  · rename_i hempty
    by_cases ho : o = owner
    · rw [ho, Db.OneDefault, hempty]
      exact oneMarked_nil
    · exact hone o ho
  · rename_i oldest rest hlist
    have hmem : oldest ∈ db.listForScope owner := hlist ▸ List.mem_cons_self
    have hoff : oldest.isDefault = false :=
      eq_false_of_ne_true (List.countP_eq_zero.mp hnone oldest hmem)
    refine oneDefault_updateById hmem promoted_owner hone ?_ o
    rw [hnone, hoff]
    rfl

/-- **Staff who delete an address keep one default** for every owner. -/
theorem oneDefault_deleteForOrganization (h : deleteForOrganization db owner addressId = .ok db')
    (hone : ∀ o, db.OneDefault o) (o : PickupAddressOwner) : db'.OneDefault o := by
  obtain ⟨orgId, -, h⟩ := bind_eq_ok.mp h
  obtain ⟨-, -, h⟩ := bind_eq_ok.mp h
  obtain ⟨row, hrow, h⟩ := bind_eq_ok.mp h
  obtain ⟨hmem, rfl⟩ := getForScope_eq_ok.mp hrow
  dsimp only at h
  split_ifs at h with hdefault <;> obtain rfl := pure_eq_ok.mp h
  · -- The only default is gone, and the oldest address that is left becomes it.
    refine oneDefault_promoteOldest ?_ (fun o ho => ?_) o
    · have hcount := countP_filter_ne (p := (·.isDefault)) (nodup_listForScope db _) hmem
      have hall := (hone (.organization orgId)).2 (List.ne_nil_of_mem hmem)
      rw [if_pos hdefault, hall] at hcount
      rw [Db.defaults, listForScope_hardDelete]
      exact Nat.add_right_cancel hcount
    · rw [Db.OneDefault, listForScope_hardDelete_of_ne hmem ho]
      exact hone o
  · exact (oneDefault_hardDelete_iff hmem hone).mpr (fun hlost => hdefault hlost.1) o

/-! ### Requests -/

/-- A request that does not make an address a non-default explicitly. -/
def PickupRequest.SendsNoFalse : PickupRequest → Prop
  | .updateAddress _ _ data => data.isDefault ≠ some false
  | .updateForOrganization _ _ data => data.isDefault ≠ some false
  | _ => True

/-- A customer's request to delete the default address of the account while there are others. -/
def PickupRequest.RemovesDefault (db : Db) : PickupRequest → Prop
  | .deleteAddress auth addressId =>
      ∃ owner, resolvePickupAddressOwnerFromAuth auth = .ok owner ∧
        ∃ row ∈ db.listForScope owner, row.id = addressId ∧ row.isDefault = true ∧
          ∃ other ∈ db.listForScope owner, other.id ≠ addressId
  | _ => False

/-- A customer's deletion leaves one default for every owner unless it removes the default. -/
theorem oneDefault_deleteAddress_iff {auth : AuthUser}
    (h : deleteAddress db auth addressId = .ok db') (hone : ∀ o, db.OneDefault o) :
    (∀ o, db'.OneDefault o) ↔ ¬ (PickupRequest.deleteAddress auth addressId).RemovesDefault db := by
  obtain ⟨owner, howner, h⟩ := bind_eq_ok.mp h
  obtain ⟨row, hrow, h⟩ := bind_eq_ok.mp h
  obtain rfl := pure_eq_ok.mp h
  obtain ⟨hmem, rfl⟩ := getForScope_eq_ok.mp hrow
  rw [oneDefault_hardDelete_iff hmem hone]
  refine not_congr ⟨fun ⟨hdefault, hother⟩ => ⟨owner, howner, row, hmem, rfl, hdefault, hother⟩, ?_⟩
  rintro ⟨owner', howner', row', hmem', hid, hdefault, hother⟩
  obtain rfl := Except.ok.inj (howner.symm.trans howner')
  obtain rfl : row' = row :=
    Table.eq_of_key (mem_listForScope.mp hmem').1 (mem_listForScope.mp hmem).1 hid
  exact ⟨hdefault, hother⟩

/-- A deletion that removes the default is accepted. -/
theorem deleteAddress_of_removesDefault {auth : AuthUser}
    (h : (PickupRequest.deleteAddress auth addressId).RemovesDefault db) :
    deleteAddress db auth addressId = .ok (db.hardDelete addressId) := by
  obtain ⟨owner, howner, row, hmem, hid, -⟩ := h
  rw [deleteAddress, howner, ok_bind, getForScope_eq_ok.mpr ⟨hmem, hid⟩]
  rfl

/-- **Which requests keep one default** for every owner: all but those of customers who delete
the default from among other addresses. -/
theorem oneDefault_step_iff {env : Env} {request : PickupRequest} (hone : ∀ o, db.OneDefault o)
    (hsends : request.SendsNoFalse) :
    (∀ o, (request.step env db).OneDefault o) ↔ ¬ request.RemovesDefault db := by
  unfold PickupRequest.step
  cases hexec : request.exec env db with
  | error e =>
      refine iff_of_true hone fun hlost => ?_
      cases request with
      | deleteAddress auth addressId =>
          have hok := hexec.symm.trans (deleteAddress_of_removesDefault hlost)
          exact absurd hok (by simp)
      | _ => exact hlost
  | ok db' =>
      cases request with
      | createAddresses auth items =>
          obtain ⟨owner, -, h⟩ := bind_eq_ok.mp hexec
          obtain ⟨org, -, h⟩ := bind_eq_ok.mp h
          exact iff_of_true (oneDefault_createEach h hone) not_false
      | updateAddress auth addressId data =>
          obtain ⟨owner, -, h⟩ := bind_eq_ok.mp hexec
          exact iff_of_true (oneDefault_updateInScope hsends h hone) not_false
      | deleteAddress auth addressId => exact oneDefault_deleteAddress_iff hexec hone
      | createAddressesForOrganization owner items actorUserId =>
          obtain ⟨orgId, -, h⟩ := bind_eq_ok.mp hexec
          obtain ⟨org, -, h⟩ := bind_eq_ok.mp h
          exact iff_of_true (oneDefault_createEach h hone) not_false
      | updateForOrganization owner addressId data =>
          obtain ⟨orgId, -, h⟩ := bind_eq_ok.mp hexec
          obtain ⟨-, -, h⟩ := bind_eq_ok.mp h
          exact iff_of_true (oneDefault_updateInScope hsends h hone) not_false
      | deleteForOrganization owner addressId =>
          exact iff_of_true (oneDefault_deleteForOrganization hexec hone) not_false

/-! ### Runs -/

/-- **Which runs keep one default.** In a run of requests none of which makes an address a
non-default explicitly, every owner has at most one default at all times, and exactly one while
there are addresses, exactly if no customer deletes the default of the account while other
addresses remain. -/
theorem one_default_iff (env : Env) (organizations : Table Organization.id)
    (requests : List PickupRequest) (hsends : ∀ request ∈ requests, request.SendsNoFalse) :
    (∀ pre post, requests = pre ++ post → ∀ owner,
        let db := Runs.run (PickupRequest.step env) (Db.initial organizations) pre
        db.defaults owner ≤ 1 ∧ (db.listForScope owner ≠ [] → db.defaults owner = 1)) ↔
      Runs.Along (PickupRequest.step env) (fun db request => ¬ request.RemovesDefault db)
        (Db.initial organizations) requests := by
  have halong : Runs.Along (PickupRequest.step env) (fun _ request => request.SendsNoFalse)
      (Db.initial organizations) requests := by
    rw [Runs.along_iff]
    intro pre request post heq
    exact hsends request (by simp [heq])
  exact Runs.forall_prefix_iff_of_along (M := fun db => ∀ o, db.OneDefault o)
    (fun db request hone hsends => oneDefault_step_iff hone hsends) (fun _ => oneMarked_nil) halong

/-! ### A customer deletes the default -/

/-- An organisation with its address. -/
def acmeOrganization : Organization :=
  ⟨1, ⟨some "1 High Street", none, some "Leeds", none, some "LS1 1AA", none⟩,
    ⟨none, none, none, none, none, none⟩⟩

/-- A customer of that organisation. -/
def acmeCustomer : AuthUser := ⟨7, .customerB2B, some 1⟩

/-- An entry of a request to create addresses, with its own lines. -/
def depotEntry (line1 : String) : PickupAddressCreate :=
  ⟨false, false, none, none,
    ⟨some line1, none, some "Leeds", none, some "LS2 2BB", some "United Kingdom"⟩, none, none,
    false⟩

/-- Two addresses, the first of which becomes the default. -/
def createDepots : PickupRequest :=
  .createAddresses acmeCustomer [depotEntry "2 Mill Lane", depotEntry "3 Dock Road"]

/-- The service with its upper case. -/
def pickupEnv : Env := ⟨String.toUpper⟩

/-- The customer deletes the default, and the other address is left without one, while the same
request of staff makes it the default. -/
theorem deleted_default_leaves_none :
    ¬ (∀ requests : List PickupRequest, (∀ request ∈ requests, request.SendsNoFalse) → ∀ owner,
        let db := Runs.run (PickupRequest.step pickupEnv)
          (Db.initial (Table.singleton acmeOrganization)) requests
        db.defaults owner ≤ 1 ∧ (db.listForScope owner ≠ [] → db.defaults owner = 1)) ∧
      (Runs.run (PickupRequest.step pickupEnv) (Db.initial (Table.singleton acmeOrganization))
          [createDepots, .deleteForOrganization (.organization 1) 1]).defaults (.organization 1)
        = 1 := by
  refine ⟨fun h => ?_, by decide +kernel⟩
  have hone := h [createDepots, .deleteAddress acmeCustomer 1] (by simp [createDepots,
    PickupRequest.SendsNoFalse]) (.organization 1)
  exact absurd (hone.2 (by decide +kernel)) (by decide +kernel)

/-- The requests of a customer who deletes the other address. -/
def otherDeleted : List PickupRequest := [createDepots, .deleteAddress acmeCustomer 2]

/-- The address book after that. -/
def otherDeletedDb : Db :=
  Runs.run (PickupRequest.step pickupEnv) (Db.initial (Table.singleton acmeOrganization))
    otherDeleted

/-- The address that is left is the default. -/
theorem one_default_iff_other_deleted :
    otherDeletedDb.defaults (.organization 1) ≤ 1 ∧
      (otherDeletedDb.listForScope (.organization 1) ≠ [] →
        otherDeletedDb.defaults (.organization 1) = 1) := by
  refine (one_default_iff pickupEnv (Table.singleton acmeOrganization) otherDeleted
    (by simp [otherDeleted, createDepots, PickupRequest.SendsNoFalse])).mpr ⟨not_false, ?_, trivial⟩
      otherDeleted [] rfl (.organization 1)
  rintro ⟨owner, howner, row, hrow, hid, hdefault, -⟩
  have hsecond : ∀ r ∈ (createDepots.step pickupEnv
      (Db.initial (Table.singleton acmeOrganization))).addresses.rows, r.id = 2 →
        r.isDefault = false := by decide +kernel
  rw [hsecond row (mem_listForScope.mp hrow).1 hid] at hdefault
  exact Bool.false_ne_true hdefault

end SwCouriers.PickupAddresses
