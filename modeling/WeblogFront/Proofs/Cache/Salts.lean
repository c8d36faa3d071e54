import WeblogFront.Cache.Salts
import WeblogFront.Proofs.Cache.StoreTurns

/-! What can be asked of the salts. Each deed is one deed on the store that keeps them, and its caller is told
what can be read off the reply of the store. So nothing is to be proved here about shelves: what is
stored, used, taken and spared by a deed is so on the store. -/
namespace WeblogFront.Cache.Salts

section Deeds

/-- What a caller asks of the cache; the salt of an issue is the one that is drawn for it. -/
inductive Deed where
  | issue (drawn user : String)
  | put (salt user : String)
  | get (salt : String)
  | consume (salt : String)
  | spend (salt user : String)
  | remove (salt : String)
  | clear
  deriving DecidableEq

inductive Reply where
  | done
  | drawn (salt : String)
  | owner (user : Option String)
  | verdict (accepted : Bool)
  deriving DecidableEq

def perform (salts : Salts) (now : Nat) : Deed → Step Salts Reply
  | .issue drawn user =>
    let step := issue salts now drawn user
    ⟨step.state, .drawn step.result, step.signals⟩
  | .put salt user =>
    let step := put salts now salt user
    ⟨step.state, .done, step.signals⟩
  | .get salt =>
    let step := salts.get now salt
    ⟨step.state, .owner step.result, step.signals⟩
  | .consume salt =>
    let step := consume salts now salt
    ⟨step.state, .owner step.result, step.signals⟩
  | .spend salt user =>
    let step := spend salts now salt user
    ⟨step.state, .verdict step.result, step.signals⟩
  | .remove salt =>
    let step := salts.remove salt
    ⟨step.state, .done, step.signals⟩
  | .clear =>
    let step := salts.clear
    ⟨step.state, .done, step.signals⟩

def Deed.stored? : Deed → Option (String × String)
  | .issue drawn user => some (drawn, user)
  | .put salt user => some (salt, user)
  | _ => none

def Deed.Stores (deed : Deed) (salt : String) : Prop :=
  ∃ user, deed.stored? = some (salt, user)

/-- The salt that is gone for good with this reply. -/
def taken? : Deed → Reply → Option String
  | .consume salt, .owner (some _) => some salt
  | .spend salt _, .verdict true => some salt
  | _, _ => none

def used? : Deed → Reply → Option String
  | .issue drawn _, _ => some drawn
  | .put salt _, _ => some salt
  | .get salt, .owner (some _) => some salt
  | _, _ => none

end Deeds

section Translation

def Deed.onStore : Deed → Store.Deed String
  | .issue drawn user => .putFor drawn user saltLifetime
  | .put salt user => .putFor salt user saltLifetime
  | .get salt => .get salt
  | .consume salt => .take salt
  | .spend salt user => .takeIf salt fun owner => owner == user
  | .remove salt => .remove salt
  | .clear => .clear

def Deed.told (reply : Store.Reply String) : Deed → Reply
  | .issue drawn _ => .drawn drawn
  | .get _ => .owner reply.found?
  | .consume _ => .owner reply.taken?
  | .spend _ _ => .verdict reply.taken?.isSome
  | _ => .done

theorem perform_on_store (salts : Salts) (now : Nat) (deed : Deed) :
    perform salts now deed =
      let step := Store.perform salts now deed.onStore
      ⟨step.state, deed.told step.result, step.signals⟩ := by
  cases deed <;> rfl

variable {deed : Deed} {reply : Store.Reply String} {now timeout : Nat} {salt user : String}
  {entry : Entry String}

theorem deposit_of_stored (stores : deed.stored? = some (salt, user)) (now timeout : Nat) :
    deed.onStore.deposit? now timeout = some (salt, ⟨user, now, min saltLifetime timeout⟩) := by
  cases deed with
  | issue | put =>
    cases stores
    rfl
  | _ => cases stores

theorem stored_of_deposit (deposits : deed.onStore.deposit? now timeout = some (salt, entry)) :
    deed.stored? = some (salt, entry.value) := by
  cases deed with
  | issue | put =>
    cases deposits
    rfl
  | _ => cases deposits

theorem stored_unspared (stores : deed.Stores salt) (reply : Store.Reply String) :
    Store.spares salt deed.onStore reply = false := by
  obtain ⟨user, stores⟩ := stores
  exact (Store.deposit_spares (deposit_of_stored stores 0 0) reply salt).trans (bne_self_eq_false salt)

theorem used_on_store (deed : Deed) (reply : Store.Reply String) :
    Store.used? deed.onStore reply = used? deed (deed.told reply) := by
  cases deed with
  | get salt =>
    cases reply with
    | found owner => cases owner <;> rfl
    | _ => rfl
  | _ => rfl

theorem taken_on_store (taken : taken? deed (deed.told reply) = some salt) :
    deed.onStore.sought? = some salt ∧ (∃ owner, reply.value? = some owner) ∧
      Store.spares salt deed.onStore reply = false := by
  cases deed with
  | consume | spend =>
    cases reply with
    | taking outcome =>
      cases outcome with
      | taken owner =>
        cases taken
        exact ⟨rfl, ⟨owner, rfl⟩, bne_self_eq_false salt⟩
      | _ => cases taken
    | _ => cases taken
  | _ => cases taken

theorem spared_on_store (unstored : ¬ deed.Stores salt) (untaken : taken? deed (deed.told reply) ≠ some salt)
    (unremoved : deed ≠ .remove salt) (uncleared : deed ≠ .clear) :
    Store.spares salt deed.onStore reply = true := by
  cases deed with
  | issue drawn user =>
    refine bne_iff_ne.mpr ?_
    rintro rfl
    exact unstored ⟨user, rfl⟩
  | put other user =>
    refine bne_iff_ne.mpr ?_
    rintro rfl
    exact unstored ⟨user, rfl⟩
  | consume | spend =>
    cases reply with
    | taking outcome =>
      cases outcome with
      | taken owner =>
        refine bne_iff_ne.mpr ?_
        rintro rfl
        exact untaken rfl
      | _ => rfl
    | _ => rfl
  | get => rfl
  | remove other =>
    refine bne_iff_ne.mpr ?_
    rintro rfl
    exact unremoved rfl
  | clear => exact absurd rfl uncleared

end Translation

end WeblogFront.Cache.Salts
