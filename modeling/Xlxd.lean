import Xlxd.Go.Strings
import Xlxd.Go.Map
import Xlxd.Go.Sort
import Xlxd.Go.Errors
import Xlxd.Xlxc.List
import Xlxd.Xlxc.ListProofs
import Xlxd.Xlxc.Image
import Xlxd.Xlxc.ImageProofs
import Xlxd.Xlxc.ImageEdit
import Xlxd.Xlxc.Commands
import Xlxd.Server.Api10
import Xlxd.Server.Api10Proofs
