import Commissioner.Cbor
import Commissioner.CborDecode
import Commissioner.Session
import Commissioner.Run
import Commissioner.TokenMachine
import Commissioner.Issuer
import Commissioner.Envelope
import Commissioner.Authenticator
import Commissioner.Protocol
import Commissioner.Python
import Commissioner.Menu
import Commissioner.Main
import Commissioner.Guards
