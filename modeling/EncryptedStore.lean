import EncryptedStore.Group.StoredGroup
import EncryptedStore.Sqlite.Table
import EncryptedStore.Sqlite.Query
import EncryptedStore.Group.Queries
import EncryptedStore.Group.Paging
import EncryptedStore.Group.Writes
import EncryptedStore.Group.Runs
import EncryptedStore.Group.Interleaving
import EncryptedStore.Provider.Transactions
import EncryptedStore.Provider.Concurrent
