import Mathlib.Data.List.Basic
import Mathlib.Data.List.Nodup

/-!
# The `groups` row

`StoredGroup` with its two enum columns, as `group.rs` declares them.  Both
enums are `#[repr(i32)]`: `ToSql` writes the code, and `FromSql` reads the
column through `i32::from_sql`, which keeps the low 32 bits of the stored
integer, then matches the code.  The fields that no statement of the group
store writes after the insert are collected in `GroupIdentity`.
-/

namespace EncryptedStore

/-- The `FromSql` match of a `#[repr(i32)]` enum: the variant listed with code
`x`, or the error `"Unrecognized variant {x}"`. -/
def fromSqlCode {α : Type} (variants : List (Int × α)) (x : Int) : Except String α :=
  match variants.find? (fun entry => entry.1 == x) with
  | some entry => .ok entry.2
  | none => .error ("Unrecognized variant " ++ toString x)

/-- With distinct codes, the match decodes exactly the listed pairs. -/
theorem fromSqlCode_eq_ok_iff {α : Type} {variants : List (Int × α)}
    (hcodes : (variants.map Prod.fst).Nodup) {x : Int} {value : α} :
    fromSqlCode variants x = .ok value ↔ (x, value) ∈ variants := by
  unfold fromSqlCode
  constructor
  · intro h
    split at h
    · next entry hfind =>
        cases h
        have hx : entry.1 = x := by simpa using List.find?_some hfind
        simpa [← hx] using List.mem_of_find?_eq_some hfind
    · cases h
  · intro hmem
    obtain ⟨entry, hfind⟩ : ∃ entry, variants.find? (fun entry => entry.1 == x) = some entry :=
      Option.isSome_iff_exists.mp (List.find?_isSome.mpr ⟨_, hmem, by simp⟩)
    have hsame : entry = (x, value) := List.inj_on_of_nodup_map hcodes
      (List.mem_of_find?_eq_some hfind) hmem (by simpa using List.find?_some hfind)
    simp [hfind, hsame]

theorem fromSqlCode_eq_error {α : Type} {variants : List (Int × α)} {x : Int}
    (h : ∀ entry ∈ variants, entry.1 ≠ x) :
    fromSqlCode variants x = .error ("Unrecognized variant " ++ toString x) := by
  have hnone : variants.find? (fun entry => entry.1 == x) = none :=
    List.find?_eq_none.mpr (by simpa using h)
  simp [fromSqlCode, hnone]

/-- `i32::from_sql` on SQLite, that is `sqlite3_value_int`: the low 32 bits of
the stored 64-bit integer, read as a signed `i32` (`bmod` by `2 ^ 32`). -/
def i32FromSql (value : Int) : Int := value.bmod 4294967296

/-- Narrowing keeps every integer that already fits in an `i32`, from `-2 ^ 31`
to `2 ^ 31 - 1`. -/
theorem i32FromSql_of_fits {value : Int} (hlow : -2147483648 ≤ value)
    (hhigh : value < 2147483648) : i32FromSql value = value := by
  simp only [i32FromSql, Int.bmod]
  split <;> omega

/-- Status of membership in a group, once a user sends a request to join. -/
inductive GroupMembershipState where
  | allowed
  | rejected
  | pending
  deriving DecidableEq, Repr

namespace GroupMembershipState

/-- `*self as i32`. -/
def toSql : GroupMembershipState → Int
  | allowed => 1
  | rejected => 2
  | pending => 3

def fromSql (value : Int) : Except String GroupMembershipState :=
  fromSqlCode [(1, allowed), (2, rejected), (3, pending)] (i32FromSql value)

/-- A stored value decodes to `state` exactly when its low 32 bits are the
code of `state`. -/
theorem fromSql_eq_ok_iff {value : Int} {state : GroupMembershipState} :
    fromSql value = .ok state ↔ toSql state = i32FromSql value := by
  rw [fromSql, fromSqlCode_eq_ok_iff (by decide)]
  cases state <;> simp [toSql, eq_comm]

theorem fromSql_eq_error {value : Int} (h : ∀ state, toSql state ≠ i32FromSql value) :
    fromSql value = .error ("Unrecognized variant " ++ toString (i32FromSql value)) :=
  fromSqlCode_eq_error (by simpa [toSql] using ⟨h allowed, h rejected, h pending⟩)

end GroupMembershipState

inductive Purpose where
  | conversation
  | sync
  deriving DecidableEq, Repr

namespace Purpose

/-- `*self as i32`. -/
def toSql : Purpose → Int
  | conversation => 1
  | sync => 2

def fromSql (value : Int) : Except String Purpose :=
  fromSqlCode [(1, conversation), (2, sync)] (i32FromSql value)

theorem fromSql_eq_ok_iff {value : Int} {purpose : Purpose} :
    fromSql value = .ok purpose ↔ toSql purpose = i32FromSql value := by
  rw [fromSql, fromSqlCode_eq_ok_iff (by decide)]
  cases purpose <;> simp [toSql, eq_comm]

theorem fromSql_eq_error {value : Int} (h : ∀ purpose, toSql purpose ≠ i32FromSql value) :
    fromSql value = .error ("Unrecognized variant " ++ toString (i32FromSql value)) :=
  fromSqlCode_eq_error (by simpa [toSql] using ⟨h conversation, h sync⟩)

end Purpose

/-- A stored value beyond the `i32` range is read by its low 32 bits. -/
example : GroupMembershipState.fromSql 4294967297 = .ok .allowed := rfl

/-- The Group ID type (`Vec<u8>`). -/
abbrev ID := List UInt8

/-- A unique group chat: one row of `groups`.  The `i64` columns are only ever
compared, never computed with, so they are modelled as `Int`. -/
structure StoredGroup where
  id : ID
  createdAtNs : Int
  membershipState : GroupMembershipState
  installationsLastChecked : Int
  purpose : Purpose
  addedByInboxId : String
  welcomeId : Option Int
  dmInboxId : Option String
  deriving DecidableEq, Repr

/-- The columns of a row that the group store writes only when it inserts it. -/
structure GroupIdentity where
  id : ID
  createdAtNs : Int
  purpose : Purpose
  addedByInboxId : String
  welcomeId : Option Int
  dmInboxId : Option String
  deriving DecidableEq, Repr

namespace StoredGroup

def identity (group : StoredGroup) : GroupIdentity :=
  ⟨group.id, group.createdAtNs, group.purpose, group.addedByInboxId, group.welcomeId,
    group.dmInboxId⟩

@[simp] theorem identity_id (group : StoredGroup) : group.identity.id = group.id := rfl

@[simp] theorem identity_welcomeId (group : StoredGroup) :
    group.identity.welcomeId = group.welcomeId := rfl

/-- Create a new group from a welcome message. -/
def newFromWelcome (id : ID) (createdAtNs : Int) (membershipState : GroupMembershipState)
    (addedByInboxId : String) (welcomeId : Int) (purpose : Purpose)
    (dmInboxId : Option String) : StoredGroup :=
  ⟨id, createdAtNs, membershipState, 0, purpose, addedByInboxId, some welcomeId, dmInboxId⟩

/-- Create a new `Purpose::Conversation` group, the default type of group. -/
def new (id : ID) (createdAtNs : Int) (membershipState : GroupMembershipState)
    (addedByInboxId : String) (dmInboxId : Option String) : StoredGroup :=
  ⟨id, createdAtNs, membershipState, 0, .conversation, addedByInboxId, none, dmInboxId⟩

/-- Create a new `Purpose::Sync` group, used to sync message history. -/
def newSyncGroup (id : ID) (createdAtNs : Int) (membershipState : GroupMembershipState) :
    StoredGroup :=
  ⟨id, createdAtNs, membershipState, 0, .sync, "", none, none⟩

/-- Where a row comes from, read off its `welcome_id`: a welcome-derived group
carries the welcome's sequence id, a self-created one carries none. -/
inductive Origin : StoredGroup → Prop where
  | welcome (id : ID) (createdAtNs : Int) (membershipState : GroupMembershipState)
      (addedByInboxId : String) (welcomeId : Int) (purpose : Purpose)
      (dmInboxId : Option String) :
      Origin (newFromWelcome id createdAtNs membershipState addedByInboxId welcomeId purpose
        dmInboxId)
  | conversation (id : ID) (createdAtNs : Int) (membershipState : GroupMembershipState)
      (addedByInboxId : String) (dmInboxId : Option String) :
      Origin (new id createdAtNs membershipState addedByInboxId dmInboxId)
  | sync (id : ID) (createdAtNs : Int) (membershipState : GroupMembershipState) :
      Origin (newSyncGroup id createdAtNs membershipState)

/-- Every constructor starts the installation clock at `0`; a row has a welcome
id exactly when it was built from a welcome; and a self-created sync group has
no inviter and no DM target. -/
theorem Origin.defaults {group : StoredGroup} (h : Origin group) :
    group.installationsLastChecked = 0 ∧
      (group.welcomeId.isSome ↔ ∃ id createdAtNs membershipState addedByInboxId welcomeId
        purpose dmInboxId, group = newFromWelcome id createdAtNs membershipState
          addedByInboxId welcomeId purpose dmInboxId) ∧
      (group.purpose = .sync → group.welcomeId = none →
        group.addedByInboxId = "" ∧ group.dmInboxId = none) := by
  cases h with
  | welcome =>
      exact ⟨rfl, ⟨fun _ => ⟨_, _, _, _, _, _, _, rfl⟩, fun _ => rfl⟩,
        by simp [newFromWelcome]⟩
  | conversation => exact ⟨rfl, by simp [new, newFromWelcome], by simp [new]⟩
  | sync => exact ⟨rfl, by simp [newSyncGroup, newFromWelcome], fun _ _ => ⟨rfl, rfl⟩⟩

end StoredGroup

end EncryptedStore
