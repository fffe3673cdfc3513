import Mathlib.Data.String.Basic
import Registrar.Proofs.Import.Places
/-!
# Whose credential it is

A user signs in with the account of another site, or else with a password, and has a row for that and
for nothing else (`Admitted`). The rows of the users come first; their ids come back batch by batch,
and the credentials are laid beside them, so this is where one user could get another's password.
-/
namespace Registrar.Text

theorem utf8Length_toList (s : String) : utf8Length s.toList = s.utf8ByteSize := by
  rw [← String.utf8Len_toList]
  induction s.toList with
  | nil => rfl
  | cons c rest ih => rw [utf8Length_cons, ih, String.utf8Len_cons, Nat.add_comm]

end Registrar.Text

namespace Registrar.Import

open Memory (HasCells Row idsAfter)

/-! ## How a user signs in -/

namespace LegacyUser

variable {user : LegacyUser}

/-- The user signs in with the account of another site. -/
def HasAccount (user : LegacyUser) : Prop := user.facebookId.isSome

/-- The user signs in with a password: there is an address and what looks like a hash. -/
def HasPassword (user : LegacyUser) : Prop :=
  user.facebookId = none ∧ user.email.isSome ∧
    ∃ hash ∈ user.password, hash.utf8ByteSize = 60

instance : DecidablePred HasAccount := fun user =>
  inferInstanceAs (Decidable (user.facebookId.isSome = true))

instance : DecidablePred HasPassword := fun user =>
  inferInstanceAs (Decidable (user.facebookId = none ∧ user.email.isSome ∧
    ∃ hash ∈ user.password, hash.utf8ByteSize = 60))

/-- A user has the account, a password or nothing to sign in with. -/
theorem credential_cases (user : LegacyUser) :
    (∃ facebookId, user.facebookId = some facebookId ∧
      user.credential? = some (.facebook facebookId)) ∨
    (∃ hash, user.HasPassword ∧ user.password = some hash ∧
      user.credential? = some (.password hash)) ∨
    (¬user.HasAccount ∧ ¬user.HasPassword ∧ user.credential? = none) := by
  unfold credential?
  split
  · exact Or.inl ⟨_, ‹_›, rfl⟩
  · rename_i hnone
    have haccount : ¬user.HasAccount := by simp [HasAccount, hnone]
    split
    · rename_i email hash hemail hhash
      rw [Text.utf8Length_toList]
      by_cases hlength : hash.utf8ByteSize = hashLength
      · have hpassword : user.HasPassword := ⟨hnone, by simp [hemail], hash, hhash, hlength⟩
        exact Or.inr (Or.inl ⟨hash, hpassword, hhash, if_pos hlength⟩)
      · refine Or.inr (Or.inr ⟨haccount, ?_, if_neg hlength⟩)
        rintro ⟨-, -, other, hother, hlength'⟩
        cases hhash.symm.trans hother
        exact hlength hlength'
    · rename_i hneither
      refine Or.inr (Or.inr ⟨haccount, ?_, rfl⟩)
      rintro ⟨-, hemail, hash, hhash, -⟩
      obtain ⟨email, hemail⟩ := Option.isSome_iff_exists.1 hemail
      exact hneither email hash hemail hhash

theorem HasPassword.not_hasAccount (h : user.HasPassword) : ¬user.HasAccount := by
  simp [HasAccount, h.1]

theorem hasAccount_of_eq_some {facebookId : String} (h : user.facebookId = some facebookId) :
    user.HasAccount := by
  simp [HasAccount, h]

end LegacyUser

/-! ## Rows -/

/-- The row is that of the user, and the map leads there. -/
def IsUser (ids : IdMap) (user : LegacyUser) (row : Row) : Prop :=
  (∃ secret, HasCells (user.cells secret) row) ∧ ids.LeadsTo .user (.key user.id) row

/-- The record has the id of the user's row and the account of the user. -/
def AccountOf (ids : IdMap) (user : LegacyUser) (account : FacebookRow) : Prop :=
  ids.get? .user (.key user.id) = some account.user ∧ user.facebookId = some account.facebookId

/-- The record has the id of the user's row and the password of the user. -/
def PasswordOf (ids : IdMap) (user : LegacyUser) (password : PasswordRow) : Prop :=
  ids.get? .user (.key user.id) = some password.user ∧ user.password = some password.hash

/-- The row gives the account of the user. -/
def IsAccount (ids : IdMap) (user : LegacyUser) (row : Row) : Prop :=
  ∃ account, AccountOf ids user account ∧ HasCells account.cells row

/-- The row gives the password of the user. -/
def IsPassword (ids : IdMap) (user : LegacyUser) (row : Row) : Prop :=
  ∃ password, PasswordOf ids user password ∧ HasCells password.cells row

/-- Every user has a row, and one for what the user signs in with. -/
structure Admitted (ids : IdMap) (users : List LegacyUser) (rows passwords accounts : List Row) :
    Prop where
  own_row : List.Forall₂ (IsUser ids) users rows
  own_account : List.Forall₂ (IsAccount ids) (users.filter (·.HasAccount)) accounts
  own_password : List.Forall₂ (IsPassword ids) (users.filter (·.HasPassword)) passwords
  /-- A row says whether there is an account with its id. -/
  joined : ∀ row ∈ rows, row.lookup "join_source" = some (.text "facebook") ↔
    ∃ account ∈ accounts, account.lookup "user_id" = row.lookup "id"

variable {ids : IdMap} {users : List LegacyUser}

/-- Users have rows at their own places. -/
theorem own_rows (sources : Sources) (hfresh : ids.Fresh .user (users.map fun user => .key user.id))
    (lastId : Nat) :
    List.Forall₂ (IsUser (ids.named .user (users.map fun user => .key user.id) lastId)) users
      (Memory.numbered lastId (userLayout.entries (usersWithSecrets sources users))) := by
  have hleads := IdMap.forall₂_leadsTo userLayout_wellShaped hfresh
    (length_usersWithSecrets sources users) lastId
  have hrows := Memory.forall₂_hasCells userLayout_writes (usersWithSecrets sources users) lastId
  have hmade : List.Forall₂ (fun user row => ∃ secret, HasCells (user.cells secret) row)
      ((usersWithSecrets sources users).map Prod.fst) (Memory.numbered lastId
        (userLayout.entries (usersWithSecrets sources users))) :=
    List.forall₂_map_left_iff.2 (hrows.imp fun user _ hrow => ⟨user.2, hrow⟩)
  have husers : (usersWithSecrets sources users).map Prod.fst = users :=
    List.map_fst_zip (by simp)
  rw [husers] at hmade
  exact hmade.mp (fun _ _ hmade hleads => ⟨hmade, hleads⟩) hleads

/-- Those who have an account have a row for it. -/
theorem own_accounts (hfresh : ids.Fresh .user (users.map fun user => .key user.id))
    (lastId last : Nat) :
    List.Forall₂ (IsAccount (ids.named .user (users.map fun user => .key user.id) lastId))
      (users.filter (·.HasAccount))
      (Memory.numbered last
        (facebookLayout.entries (facebookRows (users.zip (idsAfter lastId users.length))))) := by
  refine forall₂_comp (forall₂_filterMap_zip (fun user id hkeep hid => ?_)
    (fun user id hleft => ?_) (IdMap.forall₂_named hfresh lastId))
    (Memory.forall₂_hasCells facebookLayout_writes _ last)
  · have haccount : user.HasAccount := of_decide_eq_true hkeep
    rcases user.credential_cases with ⟨facebookId, hfacebook, hcredential⟩ |
      ⟨hash, hpassword, -⟩ | ⟨hnone, -⟩
    · exact ⟨⟨id, facebookId⟩, by simp [hcredential], hid, hfacebook⟩
    · exact absurd haccount hpassword.not_hasAccount
    · exact absurd haccount hnone
  · have haccount : ¬user.HasAccount := fun haccount => hleft (decide_eq_true haccount)
    rcases user.credential_cases with ⟨facebookId, hfacebook, -⟩ |
      ⟨hash, -, -, hcredential⟩ | ⟨-, -, hcredential⟩
    · exact absurd (LegacyUser.hasAccount_of_eq_some hfacebook) haccount
    · simp [hcredential]
    · simp [hcredential]

/-- Those who have a password and no account have a row for it. -/
theorem own_passwords (hfresh : ids.Fresh .user (users.map fun user => .key user.id))
    (lastId last : Nat) :
    List.Forall₂ (IsPassword (ids.named .user (users.map fun user => .key user.id) lastId))
      (users.filter (·.HasPassword))
      (Memory.numbered last
        (passwordLayout.entries (passwordRows (users.zip (idsAfter lastId users.length))))) := by
  refine forall₂_comp (forall₂_filterMap_zip (fun user id hkeep hid => ?_)
    (fun user id hleft => ?_) (IdMap.forall₂_named hfresh lastId))
    (Memory.forall₂_hasCells passwordLayout_writes _ last)
  · have hpassword : user.HasPassword := of_decide_eq_true hkeep
    rcases user.credential_cases with ⟨facebookId, hfacebook, -⟩ |
      ⟨hash, -, hhash, hcredential⟩ | ⟨-, hnone, -⟩
    · exact absurd (LegacyUser.hasAccount_of_eq_some hfacebook) hpassword.not_hasAccount
    · exact ⟨⟨id, hash⟩, by simp [hcredential], hid, hhash⟩
    · exact absurd hpassword hnone
  · have hpassword : ¬user.HasPassword := fun hpassword => hleft (decide_eq_true hpassword)
    rcases user.credential_cases with ⟨facebookId, -, hcredential⟩ |
      ⟨hash, hhas, -⟩ | ⟨-, -, hcredential⟩
    · simp [hcredential]
    · exact absurd hhas hpassword
    · simp [hcredential]

/-! ## Joining -/

/-- The row of a user and the row of an account have the same id only if the account is the user's. -/
theorem joined_iff (hfresh : ids.Fresh .user (users.map fun user => .key user.id)) {lastId : Nat}
    {rows accounts : List Row}
    (hrows : List.Forall₂ (IsUser (ids.named .user (users.map fun user => .key user.id) lastId))
      users rows)
    (haccounts : List.Forall₂
      (IsAccount (ids.named .user (users.map fun user => .key user.id) lastId))
      (users.filter (·.HasAccount)) accounts) {row : Row} (hrow : row ∈ rows) :
    row.lookup "join_source" = some (.text "facebook") ↔
      ∃ account ∈ accounts, account.lookup "user_id" = row.lookup "id" := by
  obtain ⟨user, huser, ⟨secret, hcells⟩, id, hid, hget⟩ := exists_of_forall₂ hrows.flip hrow
  have hjoined : row.lookup "join_source" =
      some (.text (if user.facebookId.isSome then "facebook" else "email")) := hcells.lookup rfl
  have howner : ∀ {other row}, IsAccount (ids.named .user
      (users.map fun user => .key user.id) lastId) other row → ∃ id,
      row.lookup "user_id" = some (.bigint id) ∧
        (ids.named .user (users.map fun user => .key user.id) lastId).get? .user (.key other.id) =
          some id := by
    rintro other row ⟨account, ⟨hget, -⟩, hcells⟩
    exact ⟨account.user, hcells.lookup rfl, hget⟩
  rw [hjoined, hid]
  constructor
  · intro hsource
    have haccount : user.HasAccount := by
      by_contra hnone
      rw [LegacyUser.HasAccount] at hnone
      simp [hnone] at hsource
    obtain ⟨account, hmem, hof⟩ := exists_of_forall₂ haccounts
      (List.mem_filter.2 ⟨huser, decide_eq_true haccount⟩)
    obtain ⟨id', hlookup, hget'⟩ := howner hof
    cases hget.symm.trans hget'
    exact ⟨account, hmem, hlookup⟩
  · rintro ⟨account, hmem, hsame⟩
    obtain ⟨other, hother, hof⟩ := exists_of_forall₂ haccounts.flip hmem
    obtain ⟨hother, haccount⟩ := List.mem_filter.1 hother
    obtain ⟨id', hlookup, hget'⟩ := howner hof
    rw [hlookup] at hsame
    cases hsame
    have hnames := IdMap.named_injective hfresh (List.mem_map_of_mem huser)
      (List.mem_map_of_mem hother) hget hget'
    obtain rfl := List.inj_on_of_nodup_map hfresh.nodup huser hother hnames
    have haccount : user.facebookId.isSome := of_decide_eq_true haccount
    rw [if_pos haccount]

/-! ## The stage -/

/-- **Every user gets their own credential** and no other. -/
theorem users_admitted {now : Time.Instant} {sources : Sources} {ids' : IdMap}
    {tx tx' : Memory.Transaction} {report : Report}
    (h : Memory.perform now (importUsers sources) ids tx = (.ok report, ids', tx')) :
    ∃ users rows passwords accounts,
      Legacy.load sources.legacy userCollection LegacyUser.decoder = .ok users ∧
      (tx'.work.table "user").rows = (tx.work.table "user").rows ++ rows ∧
      (tx'.work.table "secret.user_email").rows =
        (tx.work.table "secret.user_email").rows ++ passwords ∧
      (tx'.work.table "secret.user_fb").rows = (tx.work.table "secret.user_fb").rows ++ accounts ∧
      Admitted ids' users rows passwords accounts := by
  obtain ⟨users, hload, -, hfresh, -, -, -, rfl, rfl⟩ := (yields_importUsers now).1 h
  have hrows := own_rows sources hfresh (tx.work.table "user").lastId
  have haccounts := own_accounts hfresh (tx.work.table "user").lastId
    (tx.work.table "secret.user_fb").lastId
  refine ⟨users, _, _, _, hload, ?_, ?_, ?_, hrows, haccounts,
    own_passwords hfresh _ (tx.work.table "secret.user_email").lastId,
    fun row hrow => joined_iff hfresh hrows haccounts hrow⟩
  all_goals rw [Memory.table_store_toRows, Memory.table_store_toRows, Memory.table_store_toRows]
  · rw [Memory.Tables.add_of_ne _ (show "user" ≠ facebookLayout.table by decide),
      Memory.Tables.add_of_ne _ (show "user" ≠ passwordLayout.table by decide)]
    exact Memory.Tables.rows_add _ _ _
  · rw [Memory.Tables.add_of_ne _ (show "secret.user_email" ≠ facebookLayout.table by decide)]
    exact Memory.Tables.rows_add _ _ _
  · exact Memory.Tables.rows_add _ _ _

/-- Four users: with an account and a password, with a password, with a hash that is too short, and
with nothing. -/
def signups : Sources where
  legacy := Legacy.Store.ofData
    [(userCollection, [
      .object [("_id", .text "ada"), ("email", .text "a@b.ca"),
        ("password", .text (String.ofList (List.replicate 60 'a'))), ("fbid", .text "42")],
      .object [("_id", .text "bob"), ("email", .text "b@b.ca"),
        ("password", .text (String.ofList (List.replicate 60 'b')))],
      .object [("_id", .text "eve"), ("email", .text "e@b.ca"), ("password", .text "secret")],
      .object [("_id", .text "dan")]])] []
  batchSize := 3
  secret _ := "code"

theorem users_admitted_of_signups :
    let performed := Memory.perform ⟨0, 0⟩ (importUsers signups) {} (Memory.begin {})
    let tables := performed.2.2.work.table
    performed.1 = .ok ⟨.users,
      [⟨"user", 4⟩, ⟨"secret.user_email", 1⟩, ⟨"secret.user_fb", 1⟩]⟩ ∧
    performed.2.1.get? .user (.key "bob") = some 2 ∧
    ((tables "user").rows.map fun row => (row.lookup "email", row.lookup "join_source")) =
      [(some (.text "a@b.ca"), some (.text "facebook")),
        (some (.text "b@b.ca"), some (.text "email")), (some (.text "e@b.ca"), some (.text "email")),
        (some (.null .text), some (.text "email"))] ∧
    (tables "secret.user_email").rows = [[("user_id", .bigint 2),
      ("password_hash", .text (String.ofList (List.replicate 60 'b'))), ("id", .bigint 1)]] ∧
    (tables "secret.user_fb").rows =
      [[("user_id", .bigint 1), ("fb_id", .text "42"), ("id", .bigint 1)]] ∧
    ∃ users, Admitted performed.2.1 users (tables "user").rows (tables "secret.user_email").rows
      (tables "secret.user_fb").rows := by
  intro performed tables
  have hresult : performed.1 = .ok ⟨.users,
      [⟨"user", 4⟩, ⟨"secret.user_email", 1⟩, ⟨"secret.user_fb", 1⟩]⟩ := by
    decide +kernel
  have hperform : performed = (.ok ⟨.users,
      [⟨"user", 4⟩, ⟨"secret.user_email", 1⟩, ⟨"secret.user_fb", 1⟩]⟩, performed.2.1,
      performed.2.2) := by
    rw [← hresult]
  obtain ⟨users, rows, passwords, accounts, -, hrows, hpasswords, haccounts, hadmitted⟩ :=
    users_admitted hperform
  have hall : (tables "user").rows = rows := hrows
  have hallPasswords : (tables "secret.user_email").rows = passwords := hpasswords
  have hallAccounts : (tables "secret.user_fb").rows = accounts := haccounts
  refine ⟨hresult, by decide +kernel, by decide +kernel, by decide +kernel, by decide +kernel,
    users, ?_⟩
  rwa [hall, hallPasswords, hallAccounts]

end Registrar.Import
