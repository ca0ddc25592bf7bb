import Go9p.Proto.Types
import Go9p.Proto.Codec
import Go9p.Proto.Auth
import Go9p.Proto.Theorems
import Go9p.Perm
import Go9p.Fs.Node
import Go9p.Fs.FS
import Go9p.Path
import Go9p.Mount.Bridge
import Go9p.Mount.Invariant
import Go9p.Mount.Requests
import Go9p.Mount.Shape
import Go9p.Mount.Answer
import Go9p.Mount.Expiry
import Go9p.Mount.Theorems
