import BytePool.Proofs.Buffer.Numbers
import BytePool.Proofs.Carving.Amortised
import BytePool.Proofs.Carving.Chunks
import BytePool.Proofs.Carving.Packing
import BytePool.Proofs.Checked.Fifo
import BytePool.Proofs.Checked.Safety
import BytePool.Proofs.Memory.Simulation
import BytePool.Proofs.Memory.Staying
import BytePool.Proofs.Pool.Adopting
import BytePool.Proofs.Pool.Conservation
import BytePool.Proofs.Pool.Faithful
import BytePool.Proofs.Pool.Interleaving
import BytePool.Proofs.Pool.Passing
import BytePool.Proofs.Pool.Recovery
import BytePool.Proofs.Pool.Routing
import BytePool.Proofs.Region.Marks
import BytePool.Proofs.Session.Aliases
import BytePool.Proofs.Session.Oblivious
import BytePool.Proofs.Session.Truthful
import BytePool.Proofs.Settings.Written
import BytePool.Proofs.Toml.Keys
import BytePool.Session.Command
