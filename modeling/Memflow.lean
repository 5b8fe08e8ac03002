import Memflow.Rust.Arith
import Memflow.Rust.Str
import Memflow.Types.Pointer64
import Memflow.Win32.Plugins
import Memflow.Win32.Memcache
import Memflow.Connector.Plugin
import Memflow.Derive.ByteSwap
import Memflow.Win32.Ntos
import Memflow.Mem.MemoryMap
import Memflow.Ffi.PhysMem
