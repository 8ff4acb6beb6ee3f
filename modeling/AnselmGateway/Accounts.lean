import Mathlib.Algebra.Group.Pi.Basic
import Mathlib.Algebra.Group.Pi.Lemmas
import AnselmGateway.QuotaStore

/-! The chart of accounts behind the accounting tables. Every stored counter is
one account, a database is its balance on each account, and a ledger row is the
entry it books. A statement of the store is then an amount moved on the
accounts of one row, whichever table the row lives in. -/
namespace AnselmGateway.Accounts
open Foundation Billing Quota QuotaStore

/-- One stored counter, named by its table and column and by its row's key. -/
inductive Account where
  | monthlyRequests (installID month : String)
  | installSpend (installID day : String)
  | installRequests (installID day : String)
  | categoryUnits (installID category day : String)
  | providerSpend (provider day : String)
  | providerRequests (provider day : String)
  | daySpend (day : String)
  | dayRequests (day : String)
  | monthSpend (month : String)
  | monthRequests (month : String)
  deriving DecidableEq

/-- An amount on every account. -/
abbrev Posting := Account → ℤ

/-- What the tables hold on each account; a missing row holds nothing. -/
def balance (db : Database) : Posting
  | .monthlyRequests installID month => db.quotaMonthly.read 0 (installID, month)
  | .installSpend installID day => (db.installSpendDaily.read 0 (installID, day)).spendPUSD
  | .installRequests installID day => (db.installSpendDaily.read 0 (installID, day)).requests
  | .categoryUnits installID category day =>
    db.installCategoryDaily.read 0 (installID, category, day)
  | .providerSpend provider day => (db.providerSpendDaily.read 0 (provider, day)).spendPUSD
  | .providerRequests provider day => (db.providerSpendDaily.read 0 (provider, day)).requests
  | .daySpend day => (db.globalSpendDaily.read 0 day).spendPUSD
  | .dayRequests day => (db.globalSpendDaily.read 0 day).requests
  | .monthSpend month => (db.globalSpendMonthly.read 0 month).spendPUSD
  | .monthRequests month => (db.globalSpendMonthly.read 0 month).requests

/-- The money a ledger row stands for: its quote until an outcome is known, its
charge once settled, nothing once rolled back. -/
def value (row : LedgerRow) : ℤ :=
  match row.state with
  | .open | .orphaned => row.reservedPUSD
  | .settled => row.chargedPUSD.getD 0
  | .rolledBack => 0

/-- Whether a ledger row still counts as a request. -/
def counted (row : LedgerRow) : ℤ := if row.state = .rolledBack then 0 else 1

/-- The category units a row holds, which is what giving it back returns. -/
def heldUnits (row : LedgerRow) : ℤ :=
  if row.category ≠ "" ∧ 0 < row.categoryUnits then row.categoryUnits else 0

/-- What one ledger row books on each account. -/
def entry (row : LedgerRow) : Posting
  | .monthlyRequests installID month =>
    if row.installID = installID ∧ row.periodMonth = month then counted row else 0
  | .installSpend installID day =>
    if row.installID = installID ∧ row.periodDay = day then value row else 0
  | .installRequests installID day =>
    if row.installID = installID ∧ row.periodDay = day ∧ row.sublimitApplied then counted row else 0
  | .categoryUnits installID category day =>
    if row.installID = installID ∧ row.category = category ∧ row.periodDay = day then
      counted row * heldUnits row
    else 0
  | .providerSpend provider day =>
    if row.provider = provider ∧ row.periodDay = day then value row else 0
  | .providerRequests provider day =>
    if row.provider = provider ∧ row.periodDay = day then counted row else 0
  | .daySpend day => if row.periodDay = day then value row else 0
  | .dayRequests day => if row.periodDay = day then counted row else 0
  | .monthSpend month => if row.periodMonth = month then value row else 0
  | .monthRequests month => if row.periodMonth = month then counted row else 0

/-! ## Statements as postings -/

/-- How one table's rows read as accounts: rewriting a row moves the balance by
the difference of what the row posts, and leaves the ledger alone. -/
structure Books {κ ν : Type} [DecidableEq κ] [Zero ν] {schema : Schema κ ν}
    (part : Part Database (Table schema)) where
  posts : κ → ν → Posting
  moves : ∀ (db : Database) (table : Table schema) (key : κ),
    (∀ other, other ≠ key → table.read 0 other = (part.get db).read 0 other) →
      balance (part.set table db) =
        balance db + (posts key (table.read 0 key) - posts key ((part.get db).read 0 key))
  ledger : ∀ (db : Database) (table : Table schema),
    (part.set table db).spendLedger = db.spendLedger

def monthlyBooks : Books quotaMonthly where
  posts key requests := Pi.single (.monthlyRequests key.1 key.2) requests
  moves db table key rest := by
    funext account
    cases account with
    | monthlyRequests installID month =>
      by_cases same : (installID, month) = key
      · subst same
        simp [balance, quotaMonthly]
      · have kept := rest (installID, month) same
        have other : ¬(installID = key.1 ∧ month = key.2) := fun h => same (Prod.ext h.1 h.2)
        simp only [quotaMonthly] at kept
        simp [balance, quotaMonthly, other, kept]
    | _ => simp [balance, quotaMonthly]
  ledger _ _ := rfl

def categoryBooks : Books installCategoryDaily where
  posts key units := Pi.single (.categoryUnits key.1 key.2.1 key.2.2) units
  moves db table key rest := by
    funext account
    cases account with
    | categoryUnits installID category day =>
      by_cases same : (installID, category, day) = key
      · subst same
        simp [balance, installCategoryDaily]
      · have kept := rest (installID, category, day) same
        have other : ¬(installID = key.1 ∧ category = key.2.1 ∧ day = key.2.2) :=
          fun h => same (Prod.ext h.1 (Prod.ext h.2.1 h.2.2))
        simp only [installCategoryDaily] at kept
        simp [balance, installCategoryDaily, other, kept]
    | _ => simp [balance, installCategoryDaily]
  ledger _ _ := rfl

/-- The two accounts of a spend row. -/
def spendPosts (spend requests : Account) (row : SpendRow) : Posting :=
  Pi.single spend row.spendPUSD + Pi.single requests row.requests

def installBooks : Books installSpendDaily where
  posts key := spendPosts (.installSpend key.1 key.2) (.installRequests key.1 key.2)
  moves db table key rest := by
    funext account
    cases account with
    | installSpend installID day | installRequests installID day =>
      by_cases same : (installID, day) = key
      · subst same
        simp [balance, installSpendDaily, spendPosts]
      · have kept := rest (installID, day) same
        have other : ¬(installID = key.1 ∧ day = key.2) := fun h => same (Prod.ext h.1 h.2)
        simp only [installSpendDaily] at kept
        simp [balance, installSpendDaily, spendPosts, other, kept]
    | _ => simp [balance, installSpendDaily, spendPosts]
  ledger _ _ := rfl

def providerBooks : Books providerSpendDaily where
  posts key := spendPosts (.providerSpend key.1 key.2) (.providerRequests key.1 key.2)
  moves db table key rest := by
    funext account
    cases account with
    | providerSpend provider day | providerRequests provider day =>
      by_cases same : (provider, day) = key
      · subst same
        simp [balance, providerSpendDaily, spendPosts]
      · have kept := rest (provider, day) same
        have other : ¬(provider = key.1 ∧ day = key.2) := fun h => same (Prod.ext h.1 h.2)
        simp only [providerSpendDaily] at kept
        simp [balance, providerSpendDaily, spendPosts, other, kept]
    | _ => simp [balance, providerSpendDaily, spendPosts]
  ledger _ _ := rfl

def dayBooks : Books globalSpendDaily where
  posts day := spendPosts (.daySpend day) (.dayRequests day)
  moves db table key rest := by
    funext account
    cases account with
    | daySpend day | dayRequests day =>
      by_cases same : day = key
      · subst same
        simp [balance, globalSpendDaily, spendPosts]
      · have kept := rest day same
        simp only [globalSpendDaily] at kept
        simp [balance, globalSpendDaily, spendPosts, same, kept]
    | _ => simp [balance, globalSpendDaily, spendPosts]
  ledger _ _ := rfl

def monthBooks : Books globalSpendMonthly where
  posts month := spendPosts (.monthSpend month) (.monthRequests month)
  moves db table key rest := by
    funext account
    cases account with
    | monthSpend month | monthRequests month =>
      by_cases same : month = key
      · subst same
        simp [balance, globalSpendMonthly, spendPosts]
      · have kept := rest month same
        simp only [globalSpendMonthly] at kept
        simp [balance, globalSpendMonthly, spendPosts, same, kept]
    | _ => simp [balance, globalSpendMonthly, spendPosts]
  ledger _ _ := rfl

/-- The ledger is untouched and the balances moved by exactly one posting. -/
structure Moved (db after : Database) (amount : Posting) : Prop where
  moved : balance after = balance db + amount
  ledger : after.spendLedger = db.spendLedger

theorem Moved.trans {db middle after : Database} {first second : Posting}
    (left : Moved db middle first) (right : Moved middle after second) :
    Moved db after (first + second) where
  moved := by rw [right.moved, left.moved, add_assoc]
  ledger := right.ledger.trans left.ledger

/-- No guarded counter is pushed past the largest stored value. The monthly
request counter of the wallet is the one without a guard. -/
def Within (db after : Database) : Prop :=
  ∀ account, (∀ month, account ≠ .monthRequests month) →
    balance after account ≤ max maxInt64 (balance db account)

theorem Within.refl (db : Database) : Within db db := fun _ _ => le_max_right _ _

theorem Within.trans {db middle after : Database} (left : Within db middle)
    (right : Within middle after) : Within db after := fun account guarded =>
  (right account guarded).trans (max_le (le_max_left _ _) (left account guarded))

/-- Moving one account stays within range when the account has the room, or is
only taken from. -/
theorem Moved.within {db after : Database} {account : Account} {amount : ℤ}
    (moved : Moved db after (Pi.single account amount))
    (room : balance db account + amount ≤ maxInt64 ∨ amount ≤ 0) : Within db after := by
  intro other _
  rw [moved.moved, Pi.add_apply]
  by_cases same : other = account
  · subst same
    rw [Pi.single_eq_same]
    omega
  · rw [Pi.single_eq_of_ne same]
    omega

section Statements
variable {κ ν : Type} [DecidableEq κ] [Zero ν] {schema : Schema κ ν}
  {part : Part Database (Table schema)} (books : Books part)
  {op : String} {key : κ} {condition : ν → Bool} {assign : ν → ν} {db after : Database}
include books

/-- Creating a lazy zero row moves nothing, and is read like the row it stands
for. -/
theorem upsert_moves (ran : upsert op part key 0 db = (.ok (), after)) :
    Moved db after 0 ∧ (part.get after).read 0 = (part.get db).read 0 := by
  unfold upsert at ran
  split at ran
  · cases ran
  · rename_i table inserted
    cases ran
    have same := Table.read_insertOrIgnore inserted
    refine ⟨⟨?_, books.ledger _ _⟩, by rw [part.get_set, same]⟩
    rw [books.moves db table key fun other _ => congrFun same other, same]
    simp

/-- A guarded one-row statement succeeds on the row it found meeting its guard,
and moves exactly that row's change. -/
theorem execOne_moves (ran : execOne op part key condition assign db = (.ok (), after)) :
    condition ((part.get db).read 0 key) = true ∧
      Moved db after (books.posts key (assign ((part.get db).read 0 key)) -
        books.posts key ((part.get db).read 0 key)) := by
  obtain ⟨count, middle, counted, checked⟩ := Tx.bind_ok.mp ran
  have one : count = 1 ∧ middle = after := by
    split at checked
    · cases checked
    · split at checked
      · cases checked
      · cases checked
        exact ⟨by omega, rfl⟩
  obtain ⟨rfl, rfl⟩ := one
  unfold execCount at counted
  split at counted
  · cases counted
  · rename_i table found updated
    cases counted
    have matched := Table.count_updateAt updated
    obtain ⟨row, held, met⟩ : ∃ row, (part.get db).get? key = some row ∧ condition row = true := by
      cases held : (part.get db).get? key with
      | none => simp [held] at matched
      | some row => exact ⟨row, rfl, by simpa [held] using matched⟩
    have before : (part.get db).read 0 key = row := by simp [Table.read, held]
    have after : table.read 0 key = assign row := by
      simp [Table.read, Table.get?_updateAt updated held met]
    rw [before]
    refine ⟨met, ?_, books.ledger _ _⟩
    rw [books.moves db table key, before, after]
    intro other different
    simp [Table.read, Table.get?_updateAt updated held met, different]

/-- A guarded statement on a lazily created row: the guard and the move are
those of the row as it was read before its creation. -/
theorem lazyOne_moves {create : String} {middle : Database}
    (created : upsert create part key 0 db = (.ok (), middle))
    (ran : execOne op part key condition assign middle = (.ok (), after)) :
    condition ((part.get db).read 0 key) = true ∧
      Moved db after (books.posts key (assign ((part.get db).read 0 key)) -
        books.posts key ((part.get db).read 0 key)) := by
  obtain ⟨idle, same⟩ := upsert_moves books created
  obtain ⟨met, moved⟩ := execOne_moves books ran
  rw [same] at met moved
  exact ⟨met, by simpa using idle.trans moved⟩

omit books in
/-- A guarded statement whose guard a missing row would fail succeeds whenever
the guard reads true. -/
theorem execOne_succeeds (met : condition ((part.get db).read 0 key) = true)
    (strict : condition 0 = false)
    (valid : schema.check key (assign ((part.get db).read 0 key)) = true) :
    ∃ after, execOne op part key condition assign db = (.ok (), after) := by
  cases held : (part.get db).get? key with
  | none => simp [Table.read, held, strict] at met
  | some row =>
    have read : (part.get db).read 0 key = row := by simp [Table.read, held]
    rw [read] at met valid
    obtain ⟨table, updated⟩ := Table.updateAt_succeeds held met valid
    refine ⟨part.set table db, Tx.bind_ok.mpr ⟨1, part.set table db, ?_, ?_⟩⟩
    · simp [execCount, updated]
    · simp

end Statements

/-! ## A ledger row's entry -/

/-- The accounts a row's money stands on. -/
def spendAccounts (row : LedgerRow) : Posting :=
  Pi.single (.installSpend row.installID row.periodDay) 1 +
    Pi.single (.providerSpend row.provider row.periodDay) 1 +
    Pi.single (.daySpend row.periodDay) 1 + Pi.single (.monthSpend row.periodMonth) 1

theorem smul_spendAccounts (amount : ℤ) (row : LedgerRow) :
    amount • spendAccounts row =
      Pi.single (.installSpend row.installID row.periodDay) amount +
        Pi.single (.providerSpend row.provider row.periodDay) amount +
        Pi.single (.daySpend row.periodDay) amount + Pi.single (.monthSpend row.periodMonth) amount := by
  funext account
  cases account <;> simp [spendAccounts, Pi.single_apply]

/-- The accounts a row is counted on. The optional daily sublimit and the
category ledger are those the row recorded. -/
def requestAccounts (row : LedgerRow) : Posting :=
  Pi.single (.monthlyRequests row.installID row.periodMonth) 1 +
    (if row.sublimitApplied then Pi.single (.installRequests row.installID row.periodDay) 1 else 0) +
    Pi.single (.categoryUnits row.installID row.category row.periodDay) (heldUnits row) +
    Pi.single (.providerRequests row.provider row.periodDay) 1 +
    Pi.single (.dayRequests row.periodDay) 1 + Pi.single (.monthRequests row.periodMonth) 1

/-- An entry is the row's money on its spend accounts and its count on its
request accounts. -/
theorem entry_eq (row : LedgerRow) :
    entry row = value row • spendAccounts row + counted row • requestAccounts row := by
  funext account
  cases account <;>
    cases applied : row.sublimitApplied <;>
    simp [entry, spendAccounts, requestAccounts, Pi.single_apply, applied, eq_comm, and_comm]

theorem entry_nonneg (row : LedgerRow) (worth : 0 ≤ value row) (account : Account) :
    0 ≤ entry row account := by
  have requests : 0 ≤ counted row := by
    unfold counted
    split <;> omega
  have units : 0 ≤ counted row * heldUnits row := by
    apply Int.mul_nonneg requests
    unfold heldUnits
    split <;> omega
  cases account <;> simp only [entry] <;> split <;> omega

/-- Giving a row back takes its whole entry off the books. -/
theorem entry_rolledBackRow (now : ℤ) (row : LedgerRow) : entry (rolledBackRow now row) = 0 := by
  rw [entry_eq]
  simp [rolledBackRow, value, counted]

/-- An unknown outcome keeps what the open row booked. -/
theorem entry_orphanedRow {now : ℤ} {row : LedgerRow} (opened : row.state = .open) :
    entry (orphanedRow now row) = entry row := by
  simp only [entry_eq, value, counted, opened, orphanedRow]
  rfl

/-- Settling replaces the quote by the charge and keeps the request counted. -/
theorem entry_settledRow {now : ℤ} {actualPUSD : Int64} {row : LedgerRow}
    (opened : row.state = .open) :
    entry (settledRow now actualPUSD row) =
      entry row + (actualPUSD.toInt - row.reservedPUSD) • spendAccounts row := by
  have kept : spendAccounts (settledRow now actualPUSD row) = spendAccounts row ∧
      requestAccounts (settledRow now actualPUSD row) = requestAccounts row := ⟨rfl, rfl⟩
  rw [entry_eq, entry_eq, kept.1, kept.2]
  simp only [value, counted, opened, settledRow, Option.getD_some, reduceCtorEq, ↓reduceIte,
    sub_zsmul]
  abel

end AnselmGateway.Accounts
