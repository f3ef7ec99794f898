import Ferry.Config.Basic
import Ferry.Postgres.Server
import Ferry.SslMode

set_option autoImplicit false

/-! # Pools of connections

A pool hands out connections to one database. A connection that is done with goes back to the pool
and is handed out again; one that may still be inside a transaction is detached instead, which
closes it, so that nobody ever gets a connection with somebody else's transaction. Of the
connections opened so far, those that are neither idle nor detached are in use.

The limit on the number of connections is left out: where it is reached, whoever asks waits until
one is given back, and a run never holds two connections of one pool. Encryption is left out as
well: the server speaks none, so a pool that asks for it opens no connection. -/

namespace Ferry.Postgres

/-- A pool of connections to one database. -/
structure Pool where
  /-- The address of the database, by which messages name it. -/
  name : String
  encrypted : Bool
  /-- Connections that wait to be handed out, the next one first. -/
  idle : List Connection
  /-- The number of connections opened so far. They are numbered from zero. -/
  opened : Nat
  /-- The numbers of the connections that were closed. -/
  detached : List Nat
  closed : Bool
deriving Inhabited

namespace Pool

/-- A pool without connections. -/
def make (e : Endpoint) (mode : SslMode) : Pool :=
  ⟨e.displayName, mode.requiresTls, [], 0, [], false⟩

/-- Take a connection out for good. -/
def detach (p : Pool) (c : Connection) : Pool := { p with detached := c.id :: p.detached }

/-- Take a connection back. A pool that is closed detaches it. -/
def giveBack (p : Pool) (c : Connection) : Pool :=
  if p.closed then p.detach c else { p with idle := p.idle ++ [c] }

/-- Detach all idle connections and hand out no more. -/
def close (p : Pool) : Pool :=
  { p with idle := [], detached := p.idle.map (·.id) ++ p.detached, closed := true }

end Pool

/-- A pool and the server behind it. -/
structure Client where
  server : Server
  pool : Pool
  /-- The number of cursors named so far. All pools take the numbers from one counter. -/
  cursors : Nat
deriving Inhabited

namespace Client

/-- Why no connection is handed out. -/
inductive LeaseIssue
  | closed
  /-- A new connection cannot be encrypted. -/
  | handshake
  /-- A new connection was refused. -/
  | refused (cause : DriverError)
deriving DecidableEq

/-- The wording of an issue. -/
def LeaseIssue.message : LeaseIssue → String
  | .closed => "Pool has been closed"
  | .handshake => "Error occurred while creating a new object: error performing TLS handshake"
  | .refused cause => "Error occurred while creating a new object: " ++ cause.message

/-- Take a connection out of the pool: the one that has been idle longest, or a new one. The
    server of this model speaks no encryption. -/
def lease (k : Client) : Except LeaseIssue Connection × Client :=
  if k.pool.closed then (.error .closed, k)
  else
    match k.pool.idle with
    | c :: rest => (.ok c, { k with pool := { k.pool with idle := rest } })
    | [] =>
      if k.pool.encrypted then (.error .handshake, k)
      else
        match k.server.startUp k.pool.name with
        | (.error e, server) => (.error (.refused e), { k with server := server })
        | (.ok _, server) =>
          (.ok (Connection.fresh k.pool.opened k.pool.name),
            { k with server := server, pool := { k.pool with opened := k.pool.opened + 1 } })

/-- Take a connection out of the pool, with a purpose that labels the error. -/
def leaseFor (purpose : String) : Call Client Connection := fun k =>
  match k.lease with
  | (.ok c, k) => (.ok c, k)
  | (.error issue, k) =>
    (.error (.pool issue.message (purpose ++ " on " ++ k.pool.name)), k)

/-- Give a connection back. -/
def giveBack (k : Client) (c : Connection) : Client := { k with pool := k.pool.giveBack c }

/-- Close a connection. -/
def detach (k : Client) (c : Connection) : Client := { k with pool := k.pool.detach c }

/-- Execute a statement on a connection. -/
def execute (k : Client) (c : Connection) (statement : Statement) :
    Except DriverError Reply × Connection × Client :=
  let (outcome, c, server) := k.server.execute c statement
  (outcome, c, { k with server := server })

/-- Prepare a statement on a connection and execute it. -/
def query (k : Client) (c : Connection) (statement : Statement) :
    Except DriverError Reply × Connection × Client :=
  let (outcome, c, server) := k.server.query c statement
  (outcome, c, { k with server := server })

/-! ## Connecting -/

/-- Open a pool for a database and see whether it answers. -/
def connect (e : Endpoint) (server : Server) : Except MigrationError Client × Server :=
  match SslMode.parse e.sslMode with
  | .error error => (.error error, server)
  | .ok mode =>
    match lease ⟨server, Pool.make e mode, 0⟩ with
    | (.error issue, k) => (.error (.connection e.displayName issue.message), k.server)
    | (.ok c, k) =>
      match k.execute c .probe with
      | (.error error, _, k) => (.error (.connection e.displayName error.message), k.server)
      | (.ok _, c, k) => (.ok (k.giveBack c), k.server)

/-- See whether the database answers. -/
def probe (k : Client) : Probe × Client :=
  match leaseFor "health check" k with
  | (.error e, k) => (⟨some e.message⟩, k)
  | (.ok c, k) =>
    match k.execute c .probe with
    | (.error e, c, k) => (⟨some (MigrationError.database e).message⟩, k.giveBack c)
    | (.ok _, c, k) => (⟨none⟩, k.giveBack c)

/-- Close the pool. -/
def close (k : Client) : Client := { k with pool := k.pool.close }

end Client

end Ferry.Postgres
